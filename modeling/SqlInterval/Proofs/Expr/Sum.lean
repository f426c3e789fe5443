import SqlInterval.Proofs.Expr.Operands
import SqlInterval.Proofs.Operator.Sum

/-!
# Sums over whole expressions

An expression that only adds and subtracts intervals of one family has the algebraic sum of its leaves
for its value, in the qualifier that spans them all, however it is bracketed. It fails only where an
exact partial sum has no room in the leading field of its own qualifier.
-/

namespace SqlInterval

/-! ## Addends -/

/-- An interval, and whether the whole adds it or subtracts it. -/
structure Addend where
  plus : Bool
  interval : Interval
deriving DecidableEq

namespace Addend

def amount (a : Addend) : Int := signed a.plus a.interval.absolute

/-- The addend in a whole that adds or subtracts the sum which it is a part of. -/
def within (plus : Bool) (a : Addend) : Addend := { a with plus := a.plus == plus }

def total : List Addend → Int
  | [] => 0
  | a :: as => a.amount + total as

def qualifiers (as : List Addend) : List Qualifier := as.map (·.interval.qualifier)

theorem amount_within (plus : Bool) (a : Addend) : (a.within plus).amount = signed plus a.amount := by
  obtain ⟨p, i⟩ := a
  cases p <;> cases plus <;> simp [amount, within, signed]

theorem total_append (as bs : List Addend) : total (as ++ bs) = total as + total bs := by
  induction as with
  | nil => exact (Int.zero_add _).symm
  | cons a as ih => rw [List.cons_append, total, total, ih, Int.add_assoc]

theorem total_within (plus : Bool) (as : List Addend) :
    total (as.map (within plus)) = signed plus (total as) := by
  induction as with
  | nil => cases plus <;> rfl
  | cons a as ih => rw [List.map_cons, total, total, ih, amount_within, signed_add]

theorem total_perm {as bs : List Addend} (h : as.Perm bs) : total as = total bs := by
  induction h with
  | nil => rfl
  | cons a _ ih => rw [total, total, ih]
  | swap a b as =>
      simp only [total]
      omega
  | trans _ _ iha ihb => exact iha.trans ihb

theorem qualifiers_append (as bs : List Addend) :
    qualifiers (as ++ bs) = qualifiers as ++ qualifiers bs := List.map_append

theorem qualifiers_within (plus : Bool) (as : List Addend) :
    qualifiers (as.map (within plus)) = qualifiers as := by
  simp only [qualifiers, List.map_map]
  rfl

theorem qualifiers_perm {as bs : List Addend} (h : as.Perm bs) :
    (qualifiers as).Perm (qualifiers bs) := h.map _

/-- The exact sum needs a leading field beyond eighteen digits. -/
def Overflows (as : List Addend) (leading : Int) : Prop :=
  ∃ q : Qualifier, q.Spans (qualifiers as) ∧ leading = (total as).tdiv q.leadingUnit ∧
    Interval.maxLeading < leading.natAbs

end Addend

open Addend

/-- The interval is the exact sum of the addends, in the qualifier that spans them. -/
structure Interval.Sums (i : Interval) (as : List Addend) : Prop where
  valid : i.Valid
  spans : i.qualifier.Spans (qualifiers as)
  absolute_eq : i.absolute = total as

namespace Interval.Sums

variable {i j : Interval} {as bs : List Addend}

theorem unique (hi : i.Sums as) (hj : j.Sums bs) (h : as.Perm bs) : i = j := by
  have hq : i.qualifier = j.qualifier :=
    (hi.spans.perm (qualifiers_perm h)).unique hj.spans
  have ha : i.absolute = j.absolute := by
    rw [hi.absolute_eq, hj.absolute_eq, total_perm h]
  exact hi.valid.eq_of_absolute hj.valid hq ha

theorem not_overflows {leading : Int} (hi : i.Sums as) : ¬ Overflows as leading := by
  rintro ⟨q, hq, rfl, hmax⟩
  obtain rfl := hi.spans.unique hq
  have hleading : ((total as).tdiv i.qualifier.leadingUnit).natAbs = i.leading.toNat := by
    rw [← hi.absolute_eq, Int.natAbs_tdiv, natAbs_absolute]
    exact hi.valid.magnitude_div_leadingUnit
  rw [hleading] at hmax
  exact Nat.not_lt.mpr hi.valid.1 hmax

/-- One addition or subtraction of two exact sums is an exact sum, or overflows. -/
theorem add {plus : Bool} (hi : i.Sums as) (hj : j.Sums bs)
    (hfamily : i.qualifier.isYearMonth = j.qualifier.isYearMonth) :
    (∃ k : Interval, addIntervals plus (.interval i) (.interval j) = .ok (.interval k) ∧
      k.qualifier.isYearMonth = i.qualifier.isYearMonth ∧
        k.Sums (as ++ bs.map (within plus))) ∨
    ∃ leading, Overflows (as ++ bs.map (within plus)) leading ∧
      addIntervals plus (.interval i) (.interval j) = .error (.data (.number leading)) := by
  obtain ⟨q, hq⟩ := Qualifier.exists_join? hfamily
  have hspans : q.Spans (qualifiers (as ++ bs.map (within plus))) := by
    rw [qualifiers_append, qualifiers_within]
    exact hi.spans.join hj.spans hq
  have htotal : total (as ++ bs.map (within plus)) = i.absolute + signed plus j.absolute := by
    rw [total_append, total_within, hi.absolute_eq, hj.absolute_eq]
  by_cases hmax : (i.absolute + signed plus j.absolute).natAbs / q.leadingUnit ≤ maxLeading
  · obtain ⟨k, hk, rfl, hka⟩ := addIntervals_exact hi.valid hj.valid hq hmax
    obtain ⟨_, hv, hvalid, -, -⟩ := addIntervals_ok hi.valid hj.valid hk
    cases hv
    exact .inl ⟨k, hk, (Qualifier.join?_family hq).1.symm, hvalid, hspans, hka.trans htotal.symm⟩
  · have hmax := Nat.lt_of_not_le hmax
    refine .inr ⟨_, ⟨q, hspans, rfl, ?_⟩, ?_⟩
    · rw [htotal, Int.natAbs_tdiv]
      exact hmax
    · rw [htotal]
      exact addIntervals_fails hq hmax

end Interval.Sums

/-! ## Expressions of sums -/

namespace Expr

variable {ctx : Context} {yearMonth : Bool} {e l r : Expr} {as bs : List Addend}

/-- The expression adds and subtracts valid intervals of one family, which its leaves hold in the
context. The addends are listed from left to right. -/
inductive SumOf (ctx : Context) (yearMonth : Bool) : Expr → List Addend → Prop where
  | leaf {e : Expr} {i : Interval} (hleaf : e.arity = 0) (he : e.evaluate ctx = .ok (.interval i))
      (hi : i.Valid) (hfamily : i.qualifier.isYearMonth = yearMonth) :
      SumOf ctx yearMonth e [⟨true, i⟩]
  | node {o : Operator} {l r : Expr} {as bs : List Addend} (forced : Option SqlType) (t : SqlType)
      (ho : o = .intervalPlusInterval ∨ o = .intervalMinusInterval) (hl : SumOf ctx yearMonth l as)
      (hr : SumOf ctx yearMonth r bs) :
      SumOf ctx yearMonth (operation o l r forced t) (as ++ bs.map (within o.isPlus))

/-- The sum at the end of the path has no room for its leading field. -/
def OverflowsAt (ctx : Context) (yearMonth : Bool) (e : Expr) (path : List Nat) (leading : Int) :
    Prop :=
  ∃ n as, e.descend path = .ok n ∧ SumOf ctx yearMonth n as ∧ Overflows as leading

theorem evaluate_sum_node {o : Operator} {i j : Interval} {forced : Option SqlType} {t : SqlType}
    (ho : o = .intervalPlusInterval ∨ o = .intervalMinusInterval)
    (hl : l.evaluate ctx = .ok (.interval i)) (hr : r.evaluate ctx = .ok (.interval j)) :
    (operation o l r forced t).evaluate ctx =
      addIntervals o.isPlus (.interval i) (.interval j) := by
  rw [evaluate, hl, ok_bind, hr, ok_bind]
  rcases ho with rfl | rfl <;> rfl

/-- The fault of a sum that fails is an overflow at one of its nodes. -/
theorem SumOf.outcome (h : SumOf ctx yearMonth e as) :
    (∃ i : Interval, e.evaluate ctx = .ok (.interval i) ∧
      i.qualifier.isYearMonth = yearMonth ∧ i.Sums as) ∨
    ∃ path leading, OverflowsAt ctx yearMonth e path leading ∧
      e.evaluate ctx = .error (.data (.number leading)) := by
  -- The family is carried along with the exact sum: it is what lets the two sides be joined.
  induction h with
  | leaf hleaf he hi hfamily =>
      refine .inl ⟨_, he, hfamily, hi, .singleton _, ?_⟩
      simp [total, amount, signed]
  | node forced t ho hl hr ihl ihr =>
      -- The left operand's fault comes first, whether or not the right one has one too.
      rcases ihl with ⟨i, hi, hif, his⟩ | ⟨path, leading, ⟨n, ns, hpath, hover⟩, herr⟩
      · rcases ihr with ⟨j, hj, hjf, hjs⟩ | ⟨path, leading, ⟨n, ns, hpath, hover⟩, herr⟩
        · rw [evaluate_sum_node ho hi hj]
          rcases his.add hjs (hif.trans hjf.symm) with ⟨k, hk, hkf, hks⟩ | ⟨leading, hover, herr⟩
          · exact .inl ⟨k, hk, hkf.trans hif, hks⟩
          · exact .inr ⟨[], leading, ⟨_, _, rfl, .node forced t ho hl hr, hover⟩, herr⟩
        · refine .inr ⟨1 :: path, leading, ⟨n, ns, hpath, hover⟩, ?_⟩
          rw [evaluate, hi, ok_bind, herr, error_bind]
      · refine .inr ⟨0 :: path, leading, ⟨n, ns, hpath, hover⟩, ?_⟩
        rw [evaluate, herr, error_bind]

theorem SumOf.sums {v : Value} (h : SumOf ctx yearMonth e as) (hv : e.evaluate ctx = .ok v) :
    ∃ i : Interval, v = .interval i ∧ i.Sums as := by
  rcases h.outcome with ⟨i, hi, -, his⟩ | ⟨path, leading, -, herr⟩
  · rw [hi] at hv
    cases hv
    exact ⟨i, rfl, his⟩
  · rw [herr] at hv
    cases hv

theorem OverflowsAt.evaluate_error {path : List Nat} {leading : Int}
    (h : OverflowsAt ctx yearMonth e path leading) : ∃ err, e.evaluate ctx = .error err := by
  obtain ⟨n, ns, hpath, hn, hover⟩ := h
  cases hv : n.evaluate ctx with
  | ok v =>
      obtain ⟨i, -, his⟩ := hn.sums hv
      exact absurd hover his.not_overflows
  | error err => exact evaluate_error_of_descend hpath hv

/-- A sum of intervals is exact, or fails at a partial sum that is too great for its qualifier. So the
same additions in another order or bracketing give the same interval where they give one, and what was
added can be taken away again. -/
theorem evaluate_sum_exact (h : SumOf ctx yearMonth e as) :
    (∀ v, e.evaluate ctx = .ok v →
      ∃ i : Interval, v = .interval i ∧ i.absolute = total as ∧
        i.qualifier.Spans (qualifiers as)) ∧
    (∀ err, e.evaluate ctx = .error err →
      ∃ path leading, OverflowsAt ctx yearMonth e path leading ∧ err = .data (.number leading)) ∧
    (∀ path leading, OverflowsAt ctx yearMonth e path leading →
      ∃ err, e.evaluate ctx = .error err) ∧
    (∀ e' bs v v', SumOf ctx yearMonth e' bs → as.Perm bs → e.evaluate ctx = .ok v →
      e'.evaluate ctx = .ok v' → v = v') ∧
    ∀ r bs forced forced' t t' v, SumOf ctx yearMonth r bs →
      (operation .intervalPlusInterval e r forced t).evaluate ctx = .ok v →
        ∃ i j : Interval, e.evaluate ctx = .ok (.interval i) ∧
          (operation .intervalMinusInterval (operation .intervalPlusInterval e r forced t) r forced'
            t').evaluate ctx = .ok (.interval j) ∧ j.absolute = i.absolute := by
  refine ⟨fun v hv => ?_, fun err herr => ?_, fun path leading hover => hover.evaluate_error, ?_, ?_⟩
  · obtain ⟨i, rfl, hi⟩ := h.sums hv
    exact ⟨i, rfl, hi.absolute_eq, hi.spans⟩
  · rcases h.outcome with ⟨i, hi, -, -⟩ | ⟨path, leading, hover, hfault⟩
    · rw [hi] at herr
      cases herr
    · rw [hfault] at herr
      cases herr
      exact ⟨path, leading, hover, rfl⟩
  · intro e' bs v v' he' hperm hv hv'
    obtain ⟨i, rfl, hi⟩ := h.sums hv
    obtain ⟨j, rfl, hj⟩ := he'.sums hv'
    rw [hi.unique hj hperm]
  · intro r bs forced forced' t t' v hr hv
    obtain ⟨a, b, ha, hb, -⟩ := evaluate_operation_ok hv
    obtain ⟨i, rfl, hi⟩ := h.sums ha
    obtain ⟨j, rfl, hj⟩ := hr.sums hb
    obtain ⟨k, rfl, -⟩ := (SumOf.node forced t (.inl rfl) h hr).sums hv
    rw [evaluate_sum_node (.inl rfl) ha hb] at hv
    obtain ⟨m, hm, hma⟩ := Interval.addIntervals_undo hi.valid hj.valid hv
    refine ⟨i, m, ha, ?_, hma⟩
    rw [evaluate_sum_node (.inr rfl) ((evaluate_sum_node (.inl rfl) ha hb).trans hv) hb]
    exact hm

/-- `(1 DAY - x) + 90 MINUTE` and `(90 MINUTE + 1 DAY) - x` where `x` is thirty hours. An hour more
than an interval of hours can hold is a fault, even if it is subtracted again at once. -/
theorem evaluate_sum_exact_of_mixed_units :
    let day := const (.interval ⟨.day, false, 1, 0⟩)
    let minutes := const (.interval ⟨.minute, false, 90, 0⟩)
    let x := column ⟨none, "x", .of (.interval .hour), some 0, true⟩
    let e := operation .intervalPlusInterval
      (operation .intervalMinusInterval day x none (.of (.interval .dayToHour))) minutes none
      (.of (.interval .dayToMinute))
    let e' := operation .intervalMinusInterval
      (operation .intervalPlusInterval minutes day none (.of (.interval .dayToMinute))) x none
      (.of (.interval .dayToMinute))
    let hours := const (.interval ⟨.hour, false, 999999999999999999, 0⟩)
    let hour := const (.interval ⟨.hour, false, 1, 0⟩)
    let sum := operation .intervalPlusInterval hours hour none (.of (.interval .hour))
    let excess := operation .intervalMinusInterval sum hour none (.of (.interval .hour))
    let ctx : Context := { row := [.interval ⟨.hour, false, 30, 0⟩] }
    SumOf ctx false e
        [⟨true, ⟨.day, false, 1, 0⟩⟩, ⟨false, ⟨.hour, false, 30, 0⟩⟩,
          ⟨true, ⟨.minute, false, 90, 0⟩⟩] ∧
      (∀ v, e.evaluate ctx = .ok v →
        ∃ i : Interval, v = .interval i ∧ i.absolute = -16200000000000) ∧
      e.evaluate ctx = .ok (.interval ⟨.dayToMinute, true, 0, 270⟩) ∧
      (∀ v, e'.evaluate ctx = .ok v → v = .interval ⟨.dayToMinute, true, 0, 270⟩) ∧
      ∃ err, excess.evaluate ctx = .error err := by
  intro day minutes x e e' hours hour sum excess ctx
  have hday : SumOf ctx false day _ := .leaf rfl rfl (by decide) rfl
  have hminutes : SumOf ctx false minutes _ := .leaf rfl rfl (by decide) rfl
  have hx : SumOf ctx false x _ := .leaf rfl rfl (by decide) rfl
  have hhours : SumOf ctx false hours _ := .leaf rfl rfl (by decide) rfl
  have hhour : SumOf ctx false hour _ := .leaf rfl rfl (by decide) rfl
  have he : SumOf ctx false e _ := .node _ _ (.inl rfl) (.node _ _ (.inr rfl) hday hx) hminutes
  have he' : SumOf ctx false e' _ := .node _ _ (.inr rfl) (.node _ _ (.inl rfl) hminutes hday) hx
  have hsum : SumOf ctx false sum _ := .node _ _ (.inl rfl) hhours hhour
  have hover : OverflowsAt ctx false excess [0] 1000000000000000000 :=
    ⟨sum, _, rfl, hsum, .hour, (Qualifier.Spans.singleton .hour).join (.singleton .hour) rfl,
      by decide, by decide⟩
  obtain ⟨hvalue, -, -, hsame, -⟩ := evaluate_sum_exact he
  have hdiff : addIntervals false (.interval ⟨.day, false, 1, 0⟩) (.interval ⟨.hour, false, 30, 0⟩) =
      .ok (.interval ⟨.dayToHour, true, 0, 6⟩) :=
    Interval.addIntervals_of_ofAbsolute (a := -21600000000000) rfl (by decide) rfl
  have hadd : addIntervals true (.interval ⟨.dayToHour, true, 0, 6⟩)
      (.interval ⟨.minute, false, 90, 0⟩) = .ok (.interval ⟨.dayToMinute, true, 0, 270⟩) :=
    Interval.addIntervals_of_ofAbsolute (a := -16200000000000) rfl (by decide) rfl
  have hv : e.evaluate ctx = .ok (.interval ⟨.dayToMinute, true, 0, 270⟩) :=
    (evaluate_sum_node (.inl rfl) ((evaluate_sum_node (.inr rfl) rfl rfl).trans hdiff) rfl).trans hadd
  refine ⟨he, fun v hv => ?_, hv, fun v hv' => (hsame e' _ _ _ he' (by decide) hv hv').symm, ?_⟩
  · obtain ⟨i, hi, ha, -⟩ := hvalue v hv
    exact ⟨i, hi, ha.trans (by decide)⟩
  · exact (evaluate_sum_exact (.node _ _ (.inr rfl) hsum hhour)).2.2.1 [0] _ hover

end Expr

end SqlInterval
