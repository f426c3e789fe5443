import SqlInterval.Interval.Literal
import SqlInterval.Proofs.Calendar.Text
import SqlInterval.Proofs.Interval.Absolute

/-!
# What the text of an interval shows

The fields of a valid interval are found again from the text between the quotes, if the qualifier is known.
Only there does what remains beside the leading field fit the fields that are shown for it.
-/

namespace SqlInterval

namespace Qualifier

/-- The fields after the leading one, for `n` trailing units. -/
def restChars (q : Qualifier) (n : Nat) : List Char :=
  match q with
  | year | month | day | hour | minute => []
  | second => fractionChars n
  | yearToMonth => '-' :: Numeral.nat n
  | dayToHour => ' ' :: Numeral.pad 2 n
  | dayToMinute => ' ' :: (Numeral.pad 2 (n / 60) ++ ':' :: Numeral.pad 2 (n % 60))
  | dayToSecond => ' ' :: clockChars n
  | hourToMinute => ':' :: Numeral.pad 2 n
  | hourToSecond =>
    ':' :: (Numeral.pad 2 (n / nanosPerMinute) ++ ':' :: (Numeral.pad 2 (n / nanosPerSecond % 60) ++
      fractionChars n))
  | minuteToSecond => ':' :: (Numeral.pad 2 (n / nanosPerSecond) ++ fractionChars n)

theorem stops_restChars (q : Qualifier) (n : Nat) : Stops Char.isDigit (q.restChars n) := by
  cases q
  case second =>
    rw [restChars, fractionChars_natCast]
    split
    · trivial
    · rfl
  all_goals trivial

theorem restChars_inj {q : Qualifier} {m n : Nat} (hm : m < q.unitsPerLeading)
    (hn : n < q.unitsPerLeading) (h : q.restChars m = q.restChars n) : m = n := by
  have hend : Stops isFractionChar [] := trivial
  cases q with
  | year | month | day | hour | minute => exact (Nat.lt_one_iff.mp hm).trans (Nat.lt_one_iff.mp hn).symm
  | second =>
      have hfraction := (fractionChars_append_inj hend hend (congrArg (· ++ []) h)).1
      exact Nat.mod_eq_of_lt hm ▸ Nat.mod_eq_of_lt hn ▸ hfraction
  | yearToMonth => exact Numeral.nat_inj (List.cons.inj h).2
  | dayToHour | hourToMinute => exact Numeral.pad_inj (List.cons.inj h).2
  | dayToMinute =>
      obtain ⟨hhour, hminute⟩ :=
        Numeral.pad_append_inj stops_colon stops_colon (List.cons.inj h).2
      have hminute := Numeral.pad_inj (List.cons.inj hminute).2
      omega
  | dayToSecond => exact (clockChars_append_inj hend hend (congrArg (· ++ []) (List.cons.inj h).2)).1
  | hourToSecond =>
      obtain ⟨hminute, hrest⟩ :=
        Numeral.pad_append_inj stops_colon stops_colon (List.cons.inj h).2
      obtain ⟨hsecond, hnano⟩ := secondChars_inj (List.cons.inj hrest).2
      simp only [nanosPerMinute, nanosPerSecond] at hminute hsecond hnano
      omega
  | minuteToSecond =>
      obtain ⟨hsecond, hnano⟩ := secondChars_inj (List.cons.inj h).2
      simp only [nanosPerSecond] at hsecond hnano
      omega

end Qualifier

namespace Interval

variable {i j : Interval}

theorem Valid.nanos (h : i.Valid) : i.nanos = i.remaining.toNat := by
  have hrest := Nat.lt_of_lt_of_le h.2.1 i.qualifier.unitsPerLeading_le
  simp only [nanosPerDay] at hrest
  have hword : i.remaining.toInt64.toBitVec.toNat = i.remaining.toNat := rfl
  exact BitVec.toInt_eq_toNat_of_lt (by omega)

theorem Valid.fieldsChars (h : i.Valid) :
    i.fieldsChars = Numeral.nat i.leading.toNat ++ i.qualifier.restChars i.remaining.toNat := by
  rw [Interval.fieldsChars, h.nanos]
  generalize i.remaining.toNat = n
  cases i.qualifier <;>
    simp only [Qualifier.restChars, natCast_tdiv, natCast_tmod_sixty, Numeral.padInt_natCast,
      List.append_assoc, List.append_nil, List.cons_append]

/-- The sign and the fields. -/
def body (i : Interval) : List Char := (if i.negative then ['-'] else []) ++ i.fieldsChars

theorem body_inj (hi : i.Valid) (hj : j.Valid) (hq : i.qualifier = j.qualifier)
    (h : i.body = j.body) : i = j := by
  have hfields (k : Interval) (hk : k.Valid) : ∀ cs, k.fieldsChars ≠ '-' :: cs := by
    intro cs heq
    rw [hk.fieldsChars] at heq
    exact Numeral.nat_append_ne_minus heq
  obtain ⟨hsign, h⟩ : i.negative = j.negative ∧ i.fieldsChars = j.fieldsChars := by
    unfold body at h
    cases hin : i.negative <;> cases hjn : j.negative <;> rw [hin, hjn] at h
    · exact ⟨rfl, h⟩
    · exact absurd h (hfields i hi _)
    · exact absurd h.symm (hfields j hj _)
    · exact ⟨rfl, (List.cons.inj h).2⟩
  rw [hi.fieldsChars, hj.fieldsChars] at h
  obtain ⟨hleading, hrest⟩ := Numeral.nat_append_inj (Qualifier.stops_restChars _ _)
    (Qualifier.stops_restChars _ _) h
  have hremaining := Qualifier.restChars_inj hi.2.1 (hq ▸ hj.2.1) (hrest.trans (hq ▸ rfl))
  cases i
  cases j
  congr
  · exact UInt64.toNat_inj.mp hleading
  · exact UInt64.toNat_inj.mp hremaining

end Interval

end SqlInterval
