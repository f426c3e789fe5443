import SqlInterval.Calendar.Iso
import SqlInterval.Proofs.Numeral

/-!
# Reading back dates and times

The form of ISO 8601 in which a date or time is written gives it again: also where the year has a sign,
where the fraction is short and where the second is a leap second that ends a minute. A leap second within
a minute is written as the second that follows it, and read as that.
-/

namespace SqlInterval

theorem isWhiteSpace_of_isDigit {c : Char} (h : c.isDigit) : isWhiteSpace c = false := by
  have hbounds := toNat_of_isDigit h
  rw [Bool.eq_false_iff]
  intro hwhite
  simp only [isWhiteSpace, Bool.or_eq_true, Bool.and_eq_true, decide_eq_true_eq] at hwhite
  omega

namespace Iso

variable {ds rest : List Char} {n width : Nat}

/-! ## Parts -/

theorem trimStart_digits (hds : ∀ c ∈ ds, c.isDigit) (hne : ds ≠ []) :
    trimStart (ds ++ rest) = ds ++ rest :=
  Stops.dropWhile (stops_append hds hne fun _ hc => isWhiteSpace_of_isDigit hc)

theorem number?_digits (hds : ∀ c ∈ ds, c.isDigit) (hne : ds ≠ []) (hlen : ds.length ≤ width)
    (hrest : Stops Char.isDigit rest) :
    number? width (ds ++ rest) = some (Numeral.value ds, rest) := by
  rw [number?, trimStart_digits hds hne, hrest.takeWhile_append hds, List.take_of_length_le hlen,
    if_neg hne, List.drop_left]

theorem number?_pad (hw : 0 < width) (hn : n < 10 ^ width) (hrest : Stops Char.isDigit rest) :
    number? width (Numeral.pad width n ++ rest) = some (n, rest) := by
  rw [number?_digits (Numeral.pad_digits width n) (Numeral.pad_ne_nil width n)
    (Nat.le_of_eq (Numeral.length_pad hw hn)) hrest, Numeral.value_pad]

theorem mark?_cons {c : Char} (hc : isWhiteSpace c = false) : mark? c (c :: rest) = some rest := by
  have htrim : trimStart (c :: rest) = c :: rest := Stops.dropWhile hc
  simp only [mark?, htrim, if_true]

/-! ## Dates -/

/-- After a sign all the digits that follow are read. -/
theorem year?_signed (hds : ∀ c ∈ ds, c.isDigit) (hne : ds ≠ []) (hrest : Stops Char.isDigit rest) :
    year? ('-' :: (ds ++ rest)) = some (-(Numeral.value ds : Int), rest) ∧
      year? ('+' :: (ds ++ rest)) = some ((Numeral.value ds : Int), rest) := by
  have hminus : trimStart ('-' :: (ds ++ rest)) = '-' :: (ds ++ rest) := rfl
  have hplus : trimStart ('+' :: (ds ++ rest)) = '+' :: (ds ++ rest) := rfl
  have hhead : (ds ++ rest).head?.any Char.isDigit = true := by
    obtain ⟨c, cs, rfl⟩ := List.exists_cons_of_ne_nil hne
    exact hds c List.mem_cons_self
  have hlen : ds.length ≤ (ds ++ rest).length := by
    rw [List.length_append]
    exact Nat.le_add_right _ _
  have hnumber := number?_digits hds hne hlen hrest
  constructor
  · simp only [year?, hminus, hhead, if_true, hnumber, Option.map_some]
  · simp only [year?, hplus, hhead, if_true, hnumber, Option.map_some]

/-- Without a sign there are at most four digits. -/
theorem year?_digits (hds : ∀ c ∈ ds, c.isDigit) (hne : ds ≠ []) (hlen : ds.length ≤ 4)
    (hrest : Stops Char.isDigit rest) :
    year? (ds ++ rest) = some ((Numeral.value ds : Int), rest) := by
  have hnumber := number?_digits hds hne hlen hrest
  unfold year?
  rw [trimStart_digits hds hne]
  split
  case h_3 => rw [hnumber, Option.map_some]
  all_goals
    rename_i heq
    obtain ⟨c, cs, rfl⟩ := List.exists_cons_of_ne_nil hne
    obtain ⟨rfl, -⟩ := List.cons.inj heq
    exact absurd (hds _ List.mem_cons_self) (by decide)

theorem year?_yearChars (y : Int) (hrest : Stops Char.isDigit rest) :
    year? (yearChars y ++ rest) = some (y, rest) := by
  unfold yearChars
  split
  · have hy : -(y.natAbs : Int) = y := by omega
    obtain ⟨hread, -⟩ := year?_signed (Numeral.pad_digits 4 y.natAbs) (Numeral.pad_ne_nil _ _) hrest
    rw [Numeral.value_pad, hy] at hread
    exact hread
  · have hy : (y.natAbs : Int) = y := by omega
    split
    · obtain ⟨-, hread⟩ := year?_signed (Numeral.nat_digits y.natAbs) (Numeral.nat_ne_nil _) hrest
      rw [Numeral.value_nat, hy] at hread
      exact hread
    · have hlen : (Numeral.pad 4 y.natAbs).length ≤ 4 :=
        Nat.le_of_eq (Numeral.length_pad (by decide) (by omega))
      rw [year?_digits (Numeral.pad_digits 4 y.natAbs) (Numeral.pad_ne_nil _ _) hlen hrest,
        Numeral.value_pad, hy]

theorem date?_chars (d : Date) (hrest : Stops Char.isDigit rest) :
    date? (d.chars ++ rest) = some (d, trimStart rest) := by
  have hmonth : d.month < 100 := Nat.lt_of_le_of_lt d.month_le (by decide)
  have hday : d.day < 100 := by
    have h := d.day_le
    have hmax : daysInMonth d.year d.month ≤ 31 := by
      unfold daysInMonth
      split
      · split <;> decide
      all_goals decide
    omega
  have hmark : isWhiteSpace '-' = false := by decide
  simp [Date.chars, date?, year?_yearChars, mark?_cons hmark, number?_pad, hmonth, hday, hrest,
    d.ofParts?_parts]

/-! ## Times of day -/

theorem hourAndMinute?_pad {h m : Nat} (hh : h < 24) (hm : m < 60)
    (hrest : Stops Char.isDigit rest) :
    hourAndMinute? (Numeral.pad 2 h ++ ':' :: (Numeral.pad 2 m ++ rest)) =
      some (60 * h + m, rest) := by
  have hmark : isWhiteSpace ':' = false := by decide
  have hh' : h < 100 := Nat.lt_trans hh (by decide)
  have hm' : m < 100 := Nat.lt_trans hm (by decide)
  simp [hourAndMinute?, mark?_cons hmark, number?_pad, hh, hm, hh', hm', hrest]

/-- A group of at most nine digits counts as many nanoseconds as its last digit does. -/
theorem fraction?_digits (hds : ∀ c ∈ ds, c.isDigit) (hne : ds ≠ []) (hlen : ds.length ≤ 9) :
    fraction? ('.' :: ds) = some (Numeral.value ds * Nat.pow 10 (9 - ds.length), []) := by
  have hend : Stops Char.isDigit [] := trivial
  have htake := hend.takeWhile_append hds
  rw [List.append_nil] at htake
  simp only [fraction?, htake, List.take_of_length_le hlen, if_neg hne, List.drop_length]

theorem fraction?_fractionGroups (hn : n < 1000000000) :
    fraction? (TimeOfDay.fractionGroups n) = some (n, []) := by
  have hgroup {width m : Nat} (hw : 0 < width) (hmax : width ≤ 9) (hm : m < 10 ^ width)
      (heq : m * Nat.pow 10 (9 - width) = n) :
      fraction? ('.' :: Numeral.pad width m) = some (n, []) := by
    have hlen := Numeral.length_pad hw hm
    rw [fraction?_digits (Numeral.pad_digits width m) (Numeral.pad_ne_nil width m) (by omega),
      Numeral.value_pad, hlen, heq]
  unfold TimeOfDay.fractionGroups
  split
  · rename_i hzero
    rw [hzero]
    rfl
  · split
    · exact hgroup (by decide) (by decide) (by omega) (by simp only [Nat.pow_eq]; omega)
    · split
      · exact hgroup (by decide) (by decide) (by omega) (by simp only [Nat.pow_eq]; omega)
      · exact hgroup (by decide) (by decide) (by omega) (by simp only [Nat.pow_eq]; omega)

theorem stops_fractionGroups (n : Nat) : Stops Char.isDigit (TimeOfDay.fractionGroups n) := by
  unfold TimeOfDay.fractionGroups
  split
  · trivial
  · split
    · rfl
    · split <;> rfl

theorem second?_pad {s : Nat} (hs : s ≤ 60) (hn : n < 1000000000) :
    second? (':' :: (Numeral.pad 2 s ++ TimeOfDay.fractionGroups n)) = some (s, n, []) := by
  have hmark : isWhiteSpace ':' = false := by decide
  have hs' : s < 100 := Nat.lt_of_le_of_lt hs (by decide)
  have htrim : trimStart [] = [] := rfl
  simp [second?, mark?_cons hmark, number?_pad, stops_fractionGroups, fraction?_fractionGroups, hs,
    hs', hn, htrim]

end Iso

namespace TimeOfDay

/-- If the time is in a leap second, it is one that ends a minute. -/
def LeapEndsMinute (t : TimeOfDay) : Prop := 1000000000 ≤ t.nano → t.second % 60 = 59

instance (t : TimeOfDay) : Decidable t.LeapEndsMinute := inferInstanceAs (Decidable (_ → _))

/-- The time that the ISO form shows. A leap second within a minute has no number of its own: it shows as the
second that follows. -/
def shown (t : TimeOfDay) : TimeOfDay :=
  if h : t.LeapEndsMinute then t
  else
    ⟨t.second + 1, t.nano - 1000000000, by have := t.second_lt; unfold LeapEndsMinute at h; omega,
      by have := t.nano_lt; omega⟩

theorem LeapEndsMinute.shown {t : TimeOfDay} (h : t.LeapEndsMinute) : t.shown = t := dif_pos h

theorem shown_parts {t : TimeOfDay} (h : ¬ t.LeapEndsMinute) :
    t.shown.second = t.second + 1 ∧ t.shown.nano = t.nano - 1000000000 := by
  rw [shown, dif_neg h]
  exact ⟨rfl, rfl⟩

theorem shown_eq_iff {t : TimeOfDay} : t.shown = t ↔ t.LeapEndsMinute := by
  refine ⟨fun h => Decidable.not_not.mp fun hleap => ?_, LeapEndsMinute.shown⟩
  have hsecond := (shown_parts hleap).1
  rw [h] at hsecond
  exact absurd hsecond (Nat.ne_of_lt (Nat.lt_succ_self _))

theorem leapEndsMinute_shown (t : TimeOfDay) : t.shown.LeapEndsMinute := by
  by_cases h : t.LeapEndsMinute
  · rwa [h.shown]
  · have hnano := t.nano_lt
    obtain ⟨-, hn⟩ := shown_parts h
    intro hleap
    omega

theorem ofParts?_parts {t : TimeOfDay} (h : t.LeapEndsMinute) : ofParts? t.second t.nano = some t :=
  dif_pos ⟨t.second_lt, t.nano_lt, h⟩

/-- A leap second at the end of a minute is written as second 60, and runs on from the second before it. -/
theorem timeOfDay?_parts (t : TimeOfDay) :
    Iso.timeOfDay? (60 * (t.second / 3600) + t.second / 60 % 60)
      (t.second % 60 + if 1000000000 ≤ t.nano then 1 else 0) (t.nano % 1000000000) =
        some t.shown := by
  have hparts := ofParts?_parts t.leapEndsMinute_shown
  have hnano := t.nano_lt
  have hminute : 60 * (60 * (t.second / 3600) + t.second / 60 % 60) + t.second % 60 = t.second := by
    omega
  by_cases hleap : t.LeapEndsMinute
  · rw [hleap.shown] at hparts ⊢
    by_cases hsixty : 1000000000 ≤ t.nano
    · have hsecond := hleap hsixty
      have hn : t.nano % 1000000000 + 1000000000 = t.nano := by omega
      rw [if_pos hsixty, Iso.timeOfDay?, if_pos (by omega), ← hsecond, hminute, hn, hparts]
    · have hn : t.nano % 1000000000 = t.nano := by omega
      rw [if_neg hsixty, Nat.add_zero, Iso.timeOfDay?, if_neg (by omega), hminute, hn, hparts]
  · obtain ⟨hsecond, hn⟩ := shown_parts hleap
    obtain ⟨hlong, hwithin⟩ := Decidable.not_imp_iff_and_not.mp hleap
    have hn' : t.nano % 1000000000 = t.shown.nano := by omega
    rw [if_pos hlong, Iso.timeOfDay?, if_neg (by omega), ← Nat.add_assoc, hminute, ← hsecond, hn',
      hparts]

/-- The parts of a time of day are found again one after another. -/
theorem isoChars_parts (t : TimeOfDay) :
    ∃ rest, Iso.hourAndMinute? t.isoChars =
        some (60 * (t.second / 3600) + t.second / 60 % 60, rest) ∧
      Iso.second? rest = some (t.second % 60 + (if 1000000000 ≤ t.nano then 1 else 0),
        t.nano % 1000000000, []) := by
  have hsecond : t.second % 60 + (if 1000000000 ≤ t.nano then 1 else 0) ≤ 60 := by
    split <;> omega
  have hhour : t.second / 3600 < 24 := by
    have h := t.second_lt
    omega
  refine ⟨_, ?_, Iso.second?_pad hsecond (by omega)⟩
  simp only [isoChars, List.append_assoc, List.cons_append]
  exact Iso.hourAndMinute?_pad hhour (Nat.mod_lt (t.second / 60) (by decide)) rfl

theorem readIso?_isoChars (t : TimeOfDay) : readIso? t.isoChars = some t.shown := by
  obtain ⟨rest, hminute, hsecond⟩ := t.isoChars_parts
  simp only [readIso?, hminute, hsecond, Option.bind_eq_bind, Option.bind_some, if_true,
    t.timeOfDay?_parts]

end TimeOfDay

namespace Timestamp

def shown (t : Timestamp) : Timestamp := ⟨t.date, t.time.shown⟩

theorem readIso?_isoChars (t : Timestamp) : readIso? t.isoChars = some t.shown := by
  obtain ⟨rest, hminute, hsecond⟩ := t.time.isoChars_parts
  have hdate : Iso.date? t.isoChars = some (t.date, 'T' :: t.time.isoChars) :=
    Iso.date?_chars t.date rfl
  have hmark : isWhiteSpace 'T' = false := by decide
  simp only [readIso?, hdate, Iso.mark?_cons hmark, hminute, hsecond, Option.bind_eq_bind,
    Option.bind_some, if_true, t.time.timeOfDay?_parts]
  rfl

end Timestamp

end SqlInterval
