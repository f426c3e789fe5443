import SqlInterval.Proofs.Calendar.Iso

/-!
# What the text of dates, clocks and zone offsets shows

Different dates, numbers of nanoseconds and offsets have different texts, and where a text ends can be told
from what follows it.
-/

namespace SqlInterval

variable {m n : Nat} {r s : List Char}

theorem Date.chars_append_inj {d e : Date} (hr : Stops Char.isDigit r) (hs : Stops Char.isDigit s)
    (h : d.chars ++ r = e.chars ++ s) : d = e ∧ r = s := by
  have hd := Iso.date?_chars d hr
  rw [h, Iso.date?_chars e hs] at hd
  obtain ⟨rfl, -⟩ := Prod.mk.inj (Option.some.inj hd)
  exact ⟨rfl, (List.append_right_inj _).mp h⟩

/-! ## Clocks -/

theorem fractionChars_natCast (n : Nat) :
    fractionChars n = if n % nanosPerSecond = 0 then []
      else '.' :: Numeral.dropTrailingZeros (Numeral.pad 9 (n % nanosPerSecond)) := by
  have hfraction : (n : Int).tmod nanosPerSecond = (n % nanosPerSecond : Nat) := by
    rw [Int.tmod_eq_emod_of_nonneg (Int.natCast_nonneg n)]
    rfl
  simp only [fractionChars, hfraction, Numeral.padInt_natCast, Int.natCast_eq_zero]

theorem fractionChars_append_inj (hr : Stops isFractionChar r) (hs : Stops isFractionChar s)
    (h : fractionChars m ++ r = fractionChars n ++ s) :
    m % nanosPerSecond = n % nanosPerSecond ∧ r = s := by
  have hdigits (k : Nat) : ∀ c ∈ Numeral.dropTrailingZeros (Numeral.pad 9 k), c.isDigit :=
    fun c hc => Numeral.pad_digits 9 k c (Numeral.dropTrailingZeros_subset _ hc)
  have hlen (k : Nat) : (Numeral.pad 9 (k % nanosPerSecond)).length = 9 :=
    Numeral.length_pad (by decide) (Nat.mod_lt k (by decide))
  rw [fractionChars_natCast, fractionChars_natCast] at h
  split at h <;> split at h
  · rename_i hm hn
    exact ⟨hm.trans hn.symm, h⟩
  · exact absurd h hr.no_point
  · exact absurd h.symm hs.no_point
  · obtain ⟨hdrop, hrest⟩ :=
      hr.digits.append_inj hs.digits (hdigits _) (hdigits _) (List.cons.inj h).2
    exact ⟨Numeral.pad_inj (Numeral.dropTrailingZeros_inj ((hlen m).trans (hlen n).symm) hdrop), hrest⟩

/-- Whole seconds and the fraction after them. -/
theorem secondChars_append_inj {a b : Nat} (hr : Stops isFractionChar r) (hs : Stops isFractionChar s)
    (h : Numeral.pad 2 a ++ (fractionChars m ++ r) = Numeral.pad 2 b ++ (fractionChars n ++ s)) :
    a = b ∧ m % nanosPerSecond = n % nanosPerSecond ∧ r = s := by
  have hstops {k : Nat} {t : List Char} (ht : Stops isFractionChar t) :
      Stops Char.isDigit (fractionChars k ++ t) := by
    rw [fractionChars_natCast]
    split
    · exact ht.digits
    · rfl
  obtain ⟨hsecond, h⟩ := Numeral.pad_append_inj (hstops hr) (hstops hs) h
  exact ⟨hsecond, fractionChars_append_inj hr hs h⟩

theorem secondChars_inj {a b : Nat}
    (h : Numeral.pad 2 a ++ fractionChars m = Numeral.pad 2 b ++ fractionChars n) :
    a = b ∧ m % nanosPerSecond = n % nanosPerSecond := by
  have hend : Stops isFractionChar [] := trivial
  rw [← List.append_nil (fractionChars m), ← List.append_nil (fractionChars n)] at h
  obtain ⟨hsecond, hnano, -⟩ := secondChars_append_inj hend hend h
  exact ⟨hsecond, hnano⟩

theorem stops_colon : Stops Char.isDigit (':' :: r) := rfl

theorem natCast_tdiv (n unit : Nat) : (n : Int).tdiv unit = (n / unit : Nat) := rfl

theorem natCast_tmod_sixty (n : Nat) : (n : Int).tmod 60 = (n % 60 : Nat) := rfl

theorem clockChars_natCast (n : Nat) :
    clockChars n = Numeral.pad 2 (n / nanosPerHour) ++ ':' :: (Numeral.pad 2 (n / nanosPerMinute % 60)
      ++ ':' :: (Numeral.pad 2 (n / nanosPerSecond % 60) ++ fractionChars n)) := by
  simp only [clockChars, natCast_tdiv, natCast_tmod_sixty, Numeral.padInt_natCast, List.append_assoc,
    List.cons_append]

theorem clockChars_append_inj (hr : Stops isFractionChar r) (hs : Stops isFractionChar s)
    (h : clockChars m ++ r = clockChars n ++ s) : m = n ∧ r = s := by
  simp only [clockChars_natCast, List.append_assoc, List.cons_append] at h
  obtain ⟨hhour, h⟩ := Numeral.pad_append_inj stops_colon stops_colon h
  obtain ⟨hminute, h⟩ := Numeral.pad_append_inj stops_colon stops_colon (List.cons.inj h).2
  obtain ⟨hsecond, hnano, hrest⟩ := secondChars_append_inj hr hs (List.cons.inj h).2
  refine ⟨?_, hrest⟩
  simp only [nanosPerHour, nanosPerMinute, nanosPerSecond] at hhour hminute hsecond hnano
  omega

/-! ## Zone offsets -/

/-- The seconds of an offset, if there are any. -/
def offsetSeconds (n : Nat) : List Char := if n = 0 then [] else ':' :: Numeral.pad 2 n

/-- What an offset of `n` seconds shows after its hours. -/
def offsetTail (n : Nat) : List Char :=
  if n % 3600 = 0 then [] else ':' :: (Numeral.pad 2 (n / 60 % 60) ++ offsetSeconds (n % 60))

theorem offsetChars_eq (z : Int) :
    offsetChars z = (if z < 0 then '-' else '+') ::
      (Numeral.pad 2 (z.natAbs / 3600) ++ offsetTail z.natAbs) := by
  have hsplit : z.natAbs % 3600 = 0 ↔ z.natAbs % 60 = 0 ∧ z.natAbs / 60 % 60 = 0 := by omega
  simp only [offsetChars, offsetTail, offsetSeconds, hsplit]
  by_cases hs : z.natAbs % 60 = 0
  · by_cases hm : z.natAbs / 60 % 60 = 0 <;> simp [hs, hm]
  · simp [hs]

theorem stops_offsetSeconds (n : Nat) : Stops Char.isDigit (offsetSeconds n) := by
  unfold offsetSeconds
  split
  · trivial
  · rfl

theorem stops_offsetTail (n : Nat) : Stops Char.isDigit (offsetTail n) := by
  unfold offsetTail
  split
  · trivial
  · rfl

theorem offsetSeconds_inj (h : offsetSeconds m = offsetSeconds n) : m = n := by
  unfold offsetSeconds at h
  split at h <;> split at h
  · rename_i hm hn
    exact hm.trans hn.symm
  · cases h
  · cases h
  · exact Numeral.pad_inj (List.cons.inj h).2

theorem offsetTail_inj (h : offsetTail m = offsetTail n) : m % 3600 = n % 3600 := by
  unfold offsetTail at h
  split at h <;> split at h
  · rename_i hm hn
    exact hm.trans hn.symm
  · cases h
  · cases h
  · obtain ⟨hminutes, h⟩ := Numeral.pad_append_inj (stops_offsetSeconds _) (stops_offsetSeconds _)
      (List.cons.inj h).2
    have hseconds := offsetSeconds_inj h
    omega

theorem offsetChars_inj {a b : Int} (h : offsetChars a = offsetChars b) : a = b := by
  rw [offsetChars_eq, offsetChars_eq] at h
  obtain ⟨hsign, h⟩ := List.cons.inj h
  obtain ⟨hhours, h⟩ := Numeral.pad_append_inj (stops_offsetTail _) (stops_offsetTail _) h
  have hrest := offsetTail_inj h
  have hneg : a < 0 ↔ b < 0 := by
    by_cases ha : a < 0 <;> by_cases hb : b < 0 <;> simp [ha, hb] at hsign ⊢
  omega

end SqlInterval
