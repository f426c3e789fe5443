import SqlInterval.Expr.Columns
import SqlInterval.Expr.Text
import SqlInterval.Proofs.Decimal.Text
import SqlInterval.Proofs.Expr.Typing
import SqlInterval.Proofs.Expr.Validity
import SqlInterval.Proofs.Operator.Congruence
import SqlInterval.Proofs.Value.Literal

/-!
# Text of expressions is unambiguous

From the text of an expression without columns its tree is found again, except that numbers may be of
different kinds and scales, that one sign stands for several operators, and that a prescribed type shows no
scale where it has no seconds. No operation can tell such trees apart.
-/

namespace SqlInterval

variable {r s : List Char}

/-! ## Constants -/

namespace Value

variable {v w : Value} {d : Decimal}

/-- Null, a number other than a double, or what its literal identifies. -/
inductive Legible : Value → Prop where
  | null : Legible null
  | integer (n : Int32) : Legible (integer n)
  | bigInt (n : Int64) : Legible (bigInt n)
  | decimal (d : Decimal) : Legible (decimal d)
  | temporal {v : Value} (h : v.Temporal) : Legible v

/-- The three forms of literals. -/
theorem Legible.forms (h : v.Legible) :
    v = .null ∨ (∃ d, v.toDecimal = .ok d ∧ v.chars = d.plain) ∨ v.Temporal := by
  cases h with
  | null => exact .inl rfl
  | integer n => exact .inr (.inl ⟨.ofInt n.toInt, rfl, (Decimal.plain_ofInt _).symm⟩)
  | bigInt n => exact .inr (.inl ⟨.ofInt n.toInt, rfl, (Decimal.plain_ofInt _).symm⟩)
  | decimal d => exact .inr (.inl ⟨d, rfl, rfl⟩)
  | temporal h => exact .inr (.inr h)

end Value

theorem Decimal.plain_begins (d : Decimal) : Begins (fun c => c = '-' ∨ c.isDigit) d.plain := by
  obtain ⟨lead, trail, h⟩ := d.exists_plainDigits
  rw [plain, h.text, signChars]
  split
  · exact ⟨'-', _, rfl, .inl rfl⟩
  · exact ((begins_digit h.lead_digits h.lead_ne_nil).mono fun _ => .inr).append _

namespace Value

variable {v w : Value} {d e : Decimal}

theorem null_begins : Begins (· = 'N') null.chars := ⟨'N', ['U', 'L', 'L'], rfl, rfl⟩

theorem Temporal.chars_begins (h : v.Temporal) :
    Begins (fun c => c = 'D' ∨ c = 'T' ∨ c = 'I') v.chars := by
  have hkeyword : Begins (fun c => c = 'D' ∨ c = 'T' ∨ c = 'I') v.keyword.toList := by
    cases h <;> simp only [keyword]
    case date => exact ⟨'D', "ATE".toList, rfl, .inl rfl⟩
    case time => exact ⟨'T', "IME".toList, rfl, .inr (.inl rfl)⟩
    case timeTz => exact ⟨'T', "IME WITH TIME ZONE".toList, rfl, .inr (.inl rfl)⟩
    case timestamp => exact ⟨'T', "IMESTAMP".toList, rfl, .inr (.inl rfl)⟩
    case timestampTz => exact ⟨'T', "IMESTAMP WITH TIME ZONE".toList, rfl, .inr (.inl rfl)⟩
    case interval => exact ⟨'I', "NTERVAL".toList, rfl, .inr (.inr rfl)⟩
  rw [h.chars, quoted, List.append_assoc, List.append_assoc]
  exact hkeyword.append _

theorem null_ne_plain : null.chars ++ r ≠ d.plain ++ s :=
  (d.plain_begins.ne null_begins (by rintro _ rfl; decide)).symm

theorem Temporal.null_ne_chars (h : v.Temporal) : null.chars ++ r ≠ v.chars ++ s :=
  (h.chars_begins.ne null_begins (by rintro _ rfl; decide)).symm

theorem Temporal.plain_ne_chars (h : v.Temporal) : d.plain ++ r ≠ v.chars ++ s :=
  d.plain_begins.ne h.chars_begins (by rintro _ (rfl | rfl | rfl) <;> decide)

theorem Legible.ne_bracket (h : v.Legible) : v.chars ++ r ≠ '(' :: s := by
  obtain rfl | ⟨d, -, hd⟩ | ht := h.forms
  · exact null_begins.ne_cons (by decide)
  · exact hd ▸ d.plain_begins.ne_cons (by decide)
  · exact ht.chars_begins.ne_cons (by decide)

/-- Literals that are equal up to their ends denote what no operator can tell apart. -/
theorem Legible.chars_append_inj (hv : v.Legible) (hw : w.Legible) (hr : Ends r) (hs : Ends s)
    (h : v.chars ++ r = w.chars ++ s) : v.Alike w ∧ r = s := by
  obtain rfl | ⟨d, hd, hdc⟩ | ht := hv.forms
  · obtain rfl | ⟨e, -, hec⟩ | hu := hw.forms
    · exact ⟨.refl _, (List.append_right_inj _).mp h⟩
    · exact absurd (hec ▸ h) null_ne_plain
    · exact absurd h hu.null_ne_chars
  · obtain rfl | ⟨e, he, hec⟩ | hu := hw.forms
    · exact absurd (hdc ▸ h.symm) null_ne_plain
    · rw [hdc, hec] at h
      obtain ⟨hrat, hrest⟩ := Decimal.plain_append_inj (hr.stops rfl rfl) (hs.stops rfl rfl) h
      exact ⟨.numbers hd he hrat, hrest⟩
    · exact absurd (hdc ▸ h) hu.plain_ne_chars
  · obtain rfl | ⟨e, -, hec⟩ | hu := hw.forms
    · exact absurd h.symm ht.null_ne_chars
    · exact absurd (hec ▸ h.symm) ht.plain_ne_chars
    · obtain ⟨rfl, hrest⟩ := ht.chars_append_inj hu hr hs h
      exact ⟨.refl _, hrest⟩

end Value

/-! ## Prescribed types -/

theorem Interval.cast_congr {t t' : SqlType} {q : Qualifier} (hk : t.kind = .interval q)
    (hk' : t'.kind = .interval q) (hscale : q.hasSeconds → t.scale = t'.scale) (i : Interval) :
    i.cast t = i.cast t' := by
  have hround (j : Interval) (hj : j.qualifier = q) :
      j.roundSeconds t.scale = j.roundSeconds t'.scale := by
    by_cases hs : q.hasSeconds
    · rw [hscale hs]
    · have hnone : j.qualifier.hasSeconds = false := hj ▸ Bool.eq_false_iff.mpr hs
      simp only [roundSeconds, hnone, or_true, if_true]
  simp only [cast, hk, hk', Kind.qualifier?]
  cases hc : i.requalify q with
  | error d => rfl
  | ok j =>
      rw [lift_ok, ok_bind, ok_bind, hround j (requalify_ok hc)]

namespace SqlType

variable {t t' : SqlType}

theorem forcedChars_append_inj (ht : t.kind.isInterval) (ht' : t'.kind.isInterval) (hr : Ends r)
    (hs : Ends s) (h : t.forcedChars ++ r = t'.forcedChars ++ s) :
    (∀ i : Interval, i.cast t = i.cast t') ∧ r = s := by
  obtain ⟨q, hq⟩ := Kind.exists_interval ht
  obtain ⟨q', hq'⟩ := Kind.exists_interval ht'
  simp only [forcedChars, hq, hq', Kind.qualifier?] at h
  obtain ⟨rfl, hscale, hrest⟩ := Qualifier.fieldsText_append_inj hr hs h
  refine ⟨Interval.cast_congr hq hq' fun hseconds => ?_, hrest⟩
  have hshown := hscale hseconds
  split at hshown <;> split at hshown
  · rename_i h h'
    exact h.trans h'.symm
  · cases hshown
  · cases hshown
  · exact Option.some.inj hshown

/-- No tail of an operand looks like the beginning of a prescribed type. -/
theorem ends_ne_forcedChars (ht : t.kind.isInterval) (hr : Ends r) :
    r ≠ ' ' :: (t.forcedChars ++ s) := by
  obtain ⟨q, hq⟩ := Kind.exists_interval ht
  obtain ⟨c, cs, hcs⟩ := List.exists_cons_of_ne_nil q.startField.keyword_ne_nil
  have hc := q.startField.keyword_letters c (hcs ▸ List.mem_cons_self)
  simp only [forcedChars, hq, Kind.qualifier?, Qualifier.fieldsText_eq, hcs, List.cons_append]
  exact hr.ne_letter hc

end SqlType

/-! ## Trees -/

namespace Expr

variable {e e' : Expr}

/-- The expression is put together as it can be, reads no row, and has legible constants. -/
structure Legible (e : Expr) : Prop where
  built : e.Built
  independent : e.has .independent
  constants : e.AllConstants Value.Legible

/-- The trees have the same shape and signs, and at their leaves and for their prescribed types what no
operator can tell apart. -/
inductive Alike : Expr → Expr → Prop where
  | const {v w : Value} (h : v.Alike w) : Alike (const v) (const w)
  | operation {o o' : Operator} {l l' r r' : Expr} {forced forced' : Option SqlType} {t t' : SqlType}
      (htoken : o.token = o'.token) (hl : Alike l l') (hr : Alike r r')
      (hforced : ForcedAlike forced forced') :
      Alike (operation o l r forced t) (operation o' l' r' forced' t')

/-- What follows the brackets of an operation. -/
def forcedText (forced : Option SqlType) : List Char :=
  match forced with
  | some t => ' ' :: t.forcedChars
  | none => []

theorem operation_chars (o : Operator) (l r : Expr) (forced : Option SqlType) (t : SqlType)
    (s : List Char) :
    (operation o l r forced t).chars ++ s = '(' :: (l.chars ++ (' ' :: o.token :: ' ' :: (r.chars ++
      (')' :: (forcedText forced ++ s))))) := by
  have hchars : (operation o l r forced t).chars =
      '(' :: l.chars ++ ' ' :: o.token :: ' ' :: r.chars ++ ')' :: forcedText forced := rfl
  rw [hchars]
  simp only [List.append_assoc, List.cons_append]

theorem forcedText_append_inj {forced forced' : Option SqlType}
    (ht : ∀ t, forced = some t → t.kind.isInterval)
    (ht' : ∀ t, forced' = some t → t.kind.isInterval) (hr : Ends r) (hs : Ends s)
    (h : forcedText forced ++ r = forcedText forced' ++ s) : ForcedAlike forced forced' ∧ r = s := by
  cases forced with
  | none =>
      cases forced' with
      | none => exact ⟨.none, h⟩
      | some t' => exact absurd h (SqlType.ends_ne_forcedChars (ht' t' rfl) hr)
  | some t =>
      cases forced' with
      | none => exact absurd h.symm (SqlType.ends_ne_forcedChars (ht t rfl) hs)
      | some t' =>
          obtain ⟨hcast, hrest⟩ :=
            SqlType.forcedChars_append_inj (ht t rfl) (ht' t' rfl) hr hs (List.cons.inj h).2
          exact ⟨.some hcast, hrest⟩

theorem Legible.operation_parts {o : Operator} {l r : Expr} {forced : Option SqlType} {t : SqlType}
    (h : (operation o l r forced t).Legible) :
    l.Legible ∧ r.Legible ∧ o.resolve l.type r.type forced = .ok t := by
  obtain ⟨hbuilt, hindependent, hconstants⟩ := h
  obtain ⟨hl, hr, ht⟩ := built_operation.mp hbuilt
  obtain ⟨hil, hir⟩ := Bool.and_eq_true_iff.mp hindependent
  exact ⟨⟨hl, hil, hconstants.1⟩, ⟨hr, hir, hconstants.2⟩, ht⟩

theorem forced_isInterval {o : Operator} {tl tr t : SqlType} {forced : Option SqlType}
    (h : o.resolve tl tr forced = .ok t) : ∀ f, forced = some f → f.kind.isInterval := by
  intro f hf
  have hadmits := (Operator.resolve_eq_ok.mp h).1 f hf
  simp only [Operator.admitsForced, Bool.and_eq_true] at hadmits
  exact hadmits.2

/-- Unique reading. -/
theorem Legible.chars_append_inj (he : e.Legible) (he' : e'.Legible) (hr : Ends r) (hs : Ends s)
    (h : e.chars ++ r = e'.chars ++ s) : e.Alike e' ∧ r = s := by
  induction e generalizing e' r s with
  | column c => cases he.independent
  | const v =>
      cases e' with
      | column c => cases he'.independent
      | const w =>
          obtain ⟨halike, hrest⟩ := Value.Legible.chars_append_inj he.constants he'.constants hr hs h
          exact ⟨.const halike, hrest⟩
      | operation o l r forced t =>
          rw [operation_chars] at h
          exact absurd h (Value.Legible.ne_bracket he.constants)
  | operation o l r forced t ihl ihr =>
      cases e' with
      | column c => cases he'.independent
      | const w =>
          rw [operation_chars] at h
          exact absurd h.symm (Value.Legible.ne_bracket he'.constants)
      | operation o' l' r' forced' t' =>
          obtain ⟨hl, hr', ht⟩ := he.operation_parts
          obtain ⟨hl', hr'', ht'⟩ := he'.operation_parts
          rw [operation_chars, operation_chars] at h
          obtain ⟨hleft, h⟩ := ihl hl hl' (.operator o _) (.operator o' _) (List.cons.inj h).2
          obtain ⟨htoken, h⟩ := List.cons.inj (List.cons.inj h).2
          obtain ⟨hright, h⟩ := ihr hr' hr'' (.bracket _) (.bracket _) (List.cons.inj h).2
          obtain ⟨hforced, hrest⟩ := forcedText_append_inj (forced_isInterval ht)
            (forced_isInterval ht') hr hs (List.cons.inj h).2
          exact ⟨.operation htoken hleft hright hforced, hrest⟩

/-! ## Evaluation -/

section Evaluation

variable {ctx : Context} {o o' : Operator} {l l' r r' : Expr} {forced forced' : Option SqlType}
  {t t' : SqlType}

theorem Legible.fits (h : e.Legible) (ctx : Context) : e.Fits ctx := by
  have hindependent := h.independent
  clear h
  induction e with
  | const v => trivial
  | column c => cases hindependent
  | operation o l r forced t ihl ihr =>
      obtain ⟨hl, hr⟩ := Bool.and_eq_true_iff.mp hindependent
      exact ⟨ihl hl, ihr hr⟩

theorem Legible.kind_eq {v : Value} (h : e.Legible) (hv : e.evaluate ctx = .ok v) (hn : v ≠ .null) :
    v.kind = e.type.kind := by
  have hsound := h.built.evaluate (h.fits ctx)
  rw [hv] at hsound
  exact hsound.resolve_left hn

theorem Legible.operand_sorts {a b : Value} (h : (operation o l r forced t).Legible)
    (ha : l.evaluate ctx = .ok a) (hb : r.evaluate ctx = .ok b) (hna : a ≠ .null) (hnb : b ≠ .null) :
    a.kind.sort? = some o.leftSort ∧ b.kind.sort? = some o.rightSort := by
  obtain ⟨hl, hr, ht⟩ := h.operation_parts
  have hka := hl.kind_eq ha hna
  have hkb := hr.kind_eq hb hnb
  rw [hka, hkb]
  exact Operator.resolve_sorts ht (hka ▸ by simpa) (hkb ▸ by simpa)

/-- The same error, or values that no operator can tell apart. -/
inductive OutcomeAlike : Except EvalError Value → Except EvalError Value → Prop where
  | ok {v w : Value} (h : v.Alike w) : OutcomeAlike (.ok v) (.ok w)
  | error (err : EvalError) : OutcomeAlike (.error err) (.error err)

theorem OutcomeAlike.refl (x : Except EvalError Value) : OutcomeAlike x x := by
  cases x with
  | ok v => exact .ok (.refl v)
  | error err => exact .error err

theorem evaluate_operation_congr (h : (operation o l r forced t).Legible)
    (h' : (operation o' l' r' forced' t').Legible) (htoken : o.token = o'.token)
    (hforced : ForcedAlike forced forced')
    (hl : OutcomeAlike (l.evaluate ctx) (l'.evaluate ctx))
    (hr : OutcomeAlike (r.evaluate ctx) (r'.evaluate ctx)) :
    (operation o l r forced t).evaluate ctx = (operation o' l' r' forced' t').evaluate ctx := by
  simp only [evaluate]
  generalize hx : l.evaluate ctx = x at hl
  generalize hx' : l'.evaluate ctx = x' at hl
  generalize hy : r.evaluate ctx = y at hr
  generalize hy' : r'.evaluate ctx = y' at hr
  cases hl with
  | error err => rfl
  | ok ha =>
      cases hr with
      | error err => rfl
      | ok hb =>
          exact Operator.combine_congr htoken hforced ha hb (h.operand_sorts hx hy)
            (h'.operand_sorts hx' hy')

theorem Alike.evaluate (h : e.Alike e') (he : e.Legible) (he' : e'.Legible) :
    OutcomeAlike (e.evaluate ctx) (e'.evaluate ctx) := by
  induction h with
  | const h => exact .ok h
  | operation htoken _ _ hforced ihl ihr =>
      obtain ⟨hl, hr, -⟩ := he.operation_parts
      obtain ⟨hl', hr', -⟩ := he'.operation_parts
      rw [evaluate_operation_congr he he' htoken hforced (ihl hl hl') (ihr hr hr')]
      exact .refl _

/-- An operation without columns has one value or error under its text, whichever of the trees with this
text it is. -/
theorem evaluate_eq_of_sql_eq (he : e.Legible) (he' : e'.Legible) (hroot : e.arity = 2)
    (h : e.sql = e'.sql) (ctx : Context) : e.evaluate ctx = e'.evaluate ctx := by
  have hchars : e.chars ++ [] = e'.chars ++ [] := congrArg (· ++ []) (String.ofList_inj.mp h)
  cases (he.chars_append_inj he' .nil .nil hchars).1 with
  | const => cases hroot
  | operation htoken hl hr hforced =>
      obtain ⟨hle, hre, -⟩ := he.operation_parts
      obtain ⟨hle', hre', -⟩ := he'.operation_parts
      exact evaluate_operation_congr he he' htoken hforced (hl.evaluate hle hle')
        (hr.evaluate hre hre')

/-- Fifty is an integer in the one tree and five tens in the other, and only one of the two prescribed
types has digits for a fraction of a day. -/
theorem evaluate_eq_of_sql_eq_of_fifty :
    let day : Date := { year := 1970, month := 1, day := 3, day_le := by decide }
    let days (scale : Int) := operation .datetimeMinusDatetime (const (.date day))
      (const (.date .epoch)) (some ⟨.interval .day, 2, scale⟩) ⟨.interval .day, 18, scale⟩
    let e := operation .intervalMultiplyNumeric (days 0) (const (.integer 50)) none
      ⟨.interval .day, 18, 0⟩
    let e' := operation .intervalMultiplyNumeric (days 3) (const (.decimal ⟨5, -1⟩)) none
      ⟨.interval .day, 18, 3⟩
    e.Legible ∧ e'.Legible ∧ e.arity = 2 ∧
      e.sql = "((DATE '1970-01-03' - DATE '1970-01-01') DAY * 50)" ∧ e.sql = e'.sql ∧
        ∀ ctx, e.evaluate ctx = e'.evaluate ctx := by
  intro day days e e'
  have he : e.Legible := by
    refine ⟨built_operation.mpr ⟨built_operation.mpr ⟨.const _, .const _, rfl⟩, .const _, rfl⟩, rfl, ?_⟩
    exact ⟨⟨.temporal (.date day), .temporal (.date .epoch)⟩, .integer 50⟩
  have he' : e'.Legible := by
    refine ⟨built_operation.mpr ⟨built_operation.mpr ⟨.const _, .const _, rfl⟩, .const _, rfl⟩, rfl, ?_⟩
    exact ⟨⟨.temporal (.date day), .temporal (.date .epoch)⟩, .decimal ⟨5, -1⟩⟩
  have hsql : e.sql = e'.sql := by decide +kernel
  exact ⟨he, he', rfl, by decide +kernel, hsql, evaluate_eq_of_sql_eq he he' rfl hsql⟩

end Evaluation

end Expr

end SqlInterval
