import SqlInterval.Proofs.Interval.Literal
import SqlInterval.Proofs.TypeName
import SqlInterval.Proofs.Value.Fields
import SqlInterval.Value.Literal

/-!
# Literals identify dates, times and intervals

A literal is a keyword, a text between quotes and, for intervals, a qualifier. The keyword gives the kind
and the text the fields; for an interval they are known only together with the qualifier after them.
-/

namespace SqlInterval

/-! ## Texts between quotes -/

/-- No quote stands in the text. -/
def Unquoted (cs : List Char) : Prop := ∀ c ∈ cs, c ≠ '\''

instance (cs : List Char) : Decidable (Unquoted cs) := List.decidableBAll _ cs

section Unquoted

variable {cs ds r s : List Char} {c : Char}

@[simp] theorem unquoted_nil : Unquoted [] := fun _ hc => absurd hc List.not_mem_nil

@[simp] theorem unquoted_cons : Unquoted (c :: cs) ↔ c ≠ '\'' ∧ Unquoted cs := List.forall_mem_cons

@[simp] theorem unquoted_append : Unquoted (cs ++ ds) ↔ Unquoted cs ∧ Unquoted ds :=
  List.forall_mem_append

theorem unquoted_digits (h : ∀ c ∈ cs, c.isDigit) : Unquoted cs := by
  rintro c hc rfl
  exact absurd (h _ hc) (by decide)

@[simp] theorem unquoted_pad (width n : Nat) : Unquoted (Numeral.pad width n) :=
  unquoted_digits (Numeral.pad_digits width n)

@[simp] theorem unquoted_nat (n : Nat) : Unquoted (Numeral.nat n) :=
  unquoted_digits (Numeral.nat_digits n)

@[simp] theorem unquoted_fractionChars (n : Nat) : Unquoted (fractionChars n) := by
  rw [fractionChars_natCast]
  split
  · exact unquoted_nil
  · refine unquoted_cons.mpr ⟨by decide, unquoted_digits fun c hc => ?_⟩
    exact Numeral.pad_digits _ _ c (Numeral.dropTrailingZeros_subset _ hc)

@[simp] theorem unquoted_clockChars (n : Nat) : Unquoted (clockChars n) := by
  simp [clockChars_natCast]

@[simp] theorem Date.unquoted_chars (d : Date) : Unquoted d.chars := by
  unfold chars yearChars
  split
  · simp
  · split <;> simp

@[simp] theorem unquoted_offsetChars (z : Int) : Unquoted (offsetChars z) := by
  have hseconds (n : Nat) : Unquoted (offsetSeconds n) := by
    unfold offsetSeconds
    split <;> simp
  have htail (n : Nat) : Unquoted (offsetTail n) := by
    unfold offsetTail
    split <;> simp [hseconds]
  rw [offsetChars_eq]
  split <;> simp [htail]

theorem Interval.Valid.unquoted_body {i : Interval} (h : i.Valid) : Unquoted i.body := by
  have hrest (q : Qualifier) (n : Nat) : Unquoted (q.restChars n) := by
    cases q <;> simp [Qualifier.restChars]
  rw [body, h.fieldsChars]
  split <;> simp [hrest]

/-- Up to the closing quote nothing is lost. -/
theorem quoted_append_inj {k l : String} (hk : Unquoted k.toList) (hl : Unquoted l.toList)
    (hcs : Unquoted cs) (hds : Unquoted ds) (h : quoted k cs ++ r = quoted l ds ++ s) :
    k = l ∧ cs = ds ∧ r = s := by
  have hstops {t : List Char} : Stops (· ≠ '\'') ('\'' :: t) := rfl
  have htrue {cs : List Char} (h : Unquoted cs) : ∀ c ∈ cs, decide (c ≠ '\'') = true :=
    fun c hc => decide_eq_true (h c hc)
  have hquoted (k : String) (cs r : List Char) :
      quoted k cs ++ r = (k.toList ++ [' ']) ++ '\'' :: (cs ++ '\'' :: r) := by
    simp only [quoted, List.append_assoc, List.cons_append, List.nil_append]
  have hblank {k : String} (hk : Unquoted k.toList) : Unquoted (k.toList ++ [' ']) := by
    simp [hk]
  rw [hquoted, hquoted] at h
  obtain ⟨hkeyword, h⟩ := hstops.append_inj hstops (htrue (hblank hk)) (htrue (hblank hl)) h
  obtain ⟨hbody, hrest⟩ := hstops.append_inj hstops (htrue hcs) (htrue hds) (List.cons.inj h).2
  exact ⟨String.toList_inj.mp (List.append_left_inj _ |>.mp hkeyword), hbody, (List.cons.inj hrest).2⟩

end Unquoted

/-! ## Fields, zones and qualifiers -/

section Fields

variable {r s : List Char}

theorem TimeOfDay.chars_append_inj {t u : TimeOfDay} (ht : t.NoLeap) (hu : u.NoLeap)
    (hr : Stops isFractionChar r) (hs : Stops isFractionChar s)
    (h : t.chars ++ r = u.chars ++ s) : t = u ∧ r = s := by
  unfold chars at h
  obtain ⟨hnanos, hrest⟩ := clockChars_append_inj hr hs h
  have hat : u.At t.nanos := ⟨by rw [hnanos], hu⟩
  exact ⟨At.unique ⟨rfl, ht⟩ hat, hrest⟩

theorem Timestamp.chars_append_inj {t u : Timestamp} (ht : t.time.NoLeap) (hu : u.time.NoLeap)
    (hr : Stops isFractionChar r) (hs : Stops isFractionChar s)
    (h : t.chars ++ r = u.chars ++ s) : t = u ∧ r = s := by
  have hblank {cs : List Char} : Stops Char.isDigit (' ' :: cs) := rfl
  have hchars (t : Timestamp) (r : List Char) :
      t.chars ++ r = t.date.chars ++ ' ' :: (t.time.chars ++ r) := by
    rw [chars, List.append_assoc, List.cons_append]
  rw [hchars, hchars] at h
  obtain ⟨hdate, h⟩ := Date.chars_append_inj hblank hblank h
  obtain ⟨htime, hrest⟩ := TimeOfDay.chars_append_inj ht hu hr hs (List.cons.inj h).2
  refine ⟨?_, hrest⟩
  obtain ⟨d, t⟩ := t
  obtain ⟨e, u⟩ := u
  obtain rfl : d = e := hdate
  obtain rfl : t = u := htime
  rfl

theorem Interval.chars_eq (i : Interval) :
    i.chars = quoted "INTERVAL" i.body ++ ' ' :: i.qualifier.chars := by
  have hopen : "INTERVAL '".toList = "INTERVAL".toList ++ [' ', '\''] := rfl
  have hclose : "' ".toList = ['\'', ' '] := rfl
  unfold chars quoted body
  rw [hopen, hclose]
  simp only [List.append_assoc, List.cons_append, List.nil_append]

theorem stops_offsetChars (z : Int) : Stops isFractionChar (offsetChars z) := by
  rw [offsetChars_eq]
  split <;> rfl

end Fields

/-! ## The parts of a literal -/

namespace Value

/-- A date, a time or a valid interval; a time is in no leap second, and its zone is one that can be. -/
inductive Temporal : Value → Prop where
  | date (d : Date) : Temporal (date d)
  | time {t : TimeOfDay} (h : t.NoLeap) : Temporal (time t)
  | timeTz {t : ZonedTime} (h : t.time.NoLeap) (hz : t.offset.Valid) : Temporal (timeTz t)
  | timestamp {t : Timestamp} (h : t.time.NoLeap) : Temporal (timestamp t)
  | timestampTz {t : ZonedTimestamp} (h : t.clock.time.NoLeap) (hz : t.offset.Valid) :
      Temporal (timestampTz t)
  | interval {i : Interval} (h : i.Valid) : Temporal (interval i)

def keyword : Value → String
  | date _ => "DATE"
  | time _ => "TIME"
  | timeTz _ => "TIME WITH TIME ZONE"
  | timestamp _ => "TIMESTAMP"
  | timestampTz _ => "TIMESTAMP WITH TIME ZONE"
  | interval _ => "INTERVAL"
  | _ => ""

/-- The text between the quotes. -/
def body : Value → List Char
  | date d => d.chars
  | time t => t.chars
  | timeTz t => t.time.chars ++ offsetChars t.offset.toInt
  | timestamp t => t.chars
  | timestampTz t => t.clock.chars ++ offsetChars t.offset.toInt
  | interval i => i.body
  | _ => []

/-- What follows the closing quote. -/
def suffix : Value → List Char
  | interval i => ' ' :: i.qualifier.chars
  | _ => []

variable {v w : Value} {r s : List Char}

theorem unquoted_keyword (v : Value) : Unquoted v.keyword.toList := by
  cases v <;> simp only [keyword] <;> decide

theorem Temporal.unquoted_body (h : v.Temporal) : Unquoted v.body := by
  have hclock (t : TimeOfDay) : Unquoted t.chars := unquoted_clockChars t.nanos
  have htimestamp (t : Timestamp) : Unquoted t.chars := by
    simp [Timestamp.chars, hclock]
  cases h with
  | interval h => exact h.unquoted_body
  | date | time | timeTz | timestamp | timestampTz => simp [body, hclock, htimestamp]

theorem Temporal.chars (h : v.Temporal) : v.chars = quoted v.keyword v.body ++ v.suffix := by
  have hnil (k : String) (cs : List Char) : quoted k cs = quoted k cs ++ [] :=
    (List.append_nil _).symm
  cases h with
  | date d => exact hnil "DATE" d.chars
  | @time t h => exact hnil "TIME" t.chars
  | @timeTz t h hz =>
      exact hnil "TIME WITH TIME ZONE" (t.time.chars ++ offsetChars t.offset.toInt)
  | @timestamp t h => exact hnil "TIMESTAMP" t.chars
  | @timestampTz t h hz =>
      exact hnil "TIMESTAMP WITH TIME ZONE" (t.clock.chars ++ offsetChars t.offset.toInt)
  | @interval i h => exact i.chars_eq

theorem Temporal.body_inj (hv : v.Temporal) (hw : w.Temporal) (hkeyword : v.keyword = w.keyword)
    (hsuffix : v.suffix = w.suffix) (h : v.body = w.body) : v = w := by
  have hend : Stops isFractionChar [] := trivial
  cases hv <;> cases hw <;> simp only [keyword] at hkeyword
  case date.date d e =>
    have h : d.chars ++ [] = e.chars ++ [] := congrArg (· ++ []) h
    rw [(Date.chars_append_inj hend.digits hend.digits h).1]
  case time.time t ht u hu =>
    have h : t.chars ++ [] = u.chars ++ [] := congrArg (· ++ []) h
    rw [(TimeOfDay.chars_append_inj ht hu hend hend h).1]
  case timeTz.timeTz t ht hz u hu hz' =>
    obtain ⟨htime, hoffset⟩ :=
      TimeOfDay.chars_append_inj ht hu (stops_offsetChars _) (stops_offsetChars _) h
    have hoffset := Int32.toInt_inj.mp (offsetChars_inj hoffset)
    exact congrArg Value.timeTz (congr (congrArg ZonedTime.mk htime) hoffset)
  case timestamp.timestamp t ht u hu =>
    have h : t.chars ++ [] = u.chars ++ [] := congrArg (· ++ []) h
    rw [(Timestamp.chars_append_inj ht hu hend hend h).1]
  case timestampTz.timestampTz t ht hz u hu hz' =>
    obtain ⟨hclock, hoffset⟩ :=
      Timestamp.chars_append_inj ht hu (stops_offsetChars _) (stops_offsetChars _) h
    have hoffset := Int32.toInt_inj.mp (offsetChars_inj hoffset)
    exact congrArg Value.timestampTz (congr (congrArg ZonedTimestamp.mk hclock) hoffset)
  case interval.interval i hi j hj =>
    have hq : i.qualifier.chars ++ [] = j.qualifier.chars ++ [] :=
      congrArg (· ++ []) (List.cons.inj hsuffix).2
    rw [Interval.body_inj hi hj (Qualifier.fieldsText_append_inj .nil .nil hq).1 h]
  all_goals exact absurd hkeyword (by decide)

theorem Temporal.suffix_append_inj (hv : v.Temporal) (hw : w.Temporal)
    (hkeyword : v.keyword = w.keyword) (hr : Ends r) (hs : Ends s)
    (h : v.suffix ++ r = w.suffix ++ s) : v.suffix = w.suffix ∧ r = s := by
  cases hv <;> cases hw <;> simp only [keyword] at hkeyword
  case interval.interval i hi j hj =>
    obtain ⟨hq, -, hrest⟩ := Qualifier.fieldsText_append_inj hr hs (List.cons.inj h).2
    exact ⟨by rw [suffix, suffix, hq], hrest⟩
  all_goals first | exact ⟨rfl, h⟩ | exact absurd hkeyword (by decide)

theorem Temporal.chars_append_inj (hv : v.Temporal) (hw : w.Temporal) (hr : Ends r) (hs : Ends s)
    (h : v.chars ++ r = w.chars ++ s) : v = w ∧ r = s := by
  rw [hv.chars, hw.chars, List.append_assoc, List.append_assoc] at h
  obtain ⟨hkeyword, hbody, hrest⟩ := quoted_append_inj v.unquoted_keyword w.unquoted_keyword
    hv.unquoted_body hw.unquoted_body h
  obtain ⟨hsuffix, hrs⟩ := hv.suffix_append_inj hw hkeyword hr hs hrest
  exact ⟨hv.body_inj hw hkeyword hsuffix hbody, hrs⟩

/-- The literal tells the kind, the fields, the zone, the sign and the qualifier. -/
theorem eq_of_sql_eq (hv : v.Temporal) (hw : w.Temporal) (h : v.sql = w.sql) : v = w := by
  have hchars : v.chars ++ [] = w.chars ++ [] := congrArg (· ++ []) (String.ofList_inj.mp h)
  exact (hv.chars_append_inj hw .nil .nil hchars).1

/-- Less than a day backwards: the sign stands before a leading field of zero. -/
theorem eq_of_sql_eq_of_negated_hour :
    let hour : Interval := ⟨.dayToSecond, false, 0, 3600000000000⟩
    let v := interval hour.negate
    let w := interval ⟨.dayToSecond, true, 0, 3600000000000⟩
    v.Temporal ∧ w.Temporal ∧ v.sql = "INTERVAL '-0 01:00:00' DAY TO SECOND" ∧ v.sql = w.sql ∧ v = w := by
  intro hour v w
  have hv : v.Temporal := .interval (by decide)
  have hw : w.Temporal := .interval (by decide)
  have hsql : v.sql = w.sql := by decide
  exact ⟨hv, hw, by decide +kernel, hsql, eq_of_sql_eq hv hw hsql⟩

end Value

end SqlInterval
