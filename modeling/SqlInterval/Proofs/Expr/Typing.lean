import SqlInterval.Proofs.Expr.Operands
import SqlInterval.Proofs.Operator.Typing

/-!
# Soundness of the static types

The type of an expression is found when it is built and does not change. In a row that keeps to the
declared kinds of the columns, every evaluation gives null or a value of that type, or fails because of
the data; the faults that the types are there to rule out do not occur.
-/

namespace SqlInterval

/-- Null goes with every kind. -/
def Value.HasKind (v : Value) (k : Kind) : Prop := v = .null ∨ v.kind = k

/-- The column is mapped to a slot that exists and holds null or a value of the declared kind. -/
def Column.Fits (ctx : Context) (c : Column) : Prop :=
  ∃ slot v, c.slot = some slot ∧ ctx.row[slot]? = some v ∧ v.HasKind c.type.kind

theorem Value.type_kind (v : Value) : v.type.kind = v.kind := by cases v <;> rfl

theorem Column.Fits.read {ctx : Context} {c : Column} (h : c.Fits ctx) :
    ∃ v, c.read ctx = .ok v ∧ v.HasKind c.type.kind := by
  obtain ⟨slot, v, hslot, hv, hkind⟩ := h
  exact ⟨v, by simp only [Column.read, hslot, Context.read, hv], hkind⟩

/-- Null operands never reach the operator; all others are of the kinds that its type was found for. -/
theorem Operator.combine_sound {o : Operator} {tl tr t : SqlType} {forced : Option SqlType}
    {l r : Value} (session : ZoneOffset) (h : o.resolve tl tr forced = .ok t)
    (hl : l.HasKind tl.kind) (hr : r.HasKind tr.kind) :
    Sound (·.HasKind t.kind) (o.combine session forced l r) := by
  unfold combine
  split
  · exact .inl rfl
  · rename_i hnull
    have hnl : l ≠ .null := by rintro rfl; exact hnull rfl
    have hnr : r ≠ .null := by rintro rfl; exact hnull (by simp [Value.isNull])
    have hsound := apply_sound session h hnl hnr (hl.resolve_left hnl) (hr.resolve_left hnr)
    exact hsound.mono fun _ => .inr

namespace Expr

/-- The expressions that can be put together from constants and columns. -/
inductive Built : Expr → Prop where
  | const (v : Value) : Built (const v)
  | column (c : Column) : Built (column c)
  | operation {o : Operator} {l r e : Expr} {forced : Option SqlType} (hl : Built l) (hr : Built r)
      (h : build o l r forced = .ok e) : Built e

/-- Every column fits the current row. -/
def Fits (ctx : Context) : Expr → Prop
  | const _ => True
  | column c => c.Fits ctx
  | operation _ l r _ _ => l.Fits ctx ∧ r.Fits ctx

variable {ctx : Context} {e : Expr}

theorem build_ok {o : Operator} {l r : Expr} {forced : Option SqlType}
    (h : build o l r forced = .ok e) :
    ∃ t, o.resolve l.type r.type forced = .ok t ∧ e = operation o l r forced t := by
  obtain ⟨t, ht, h⟩ := bind_eq_ok.mp h
  cases h
  exact ⟨t, ht, rfl⟩

theorem Built.evaluate (hb : e.Built) (hf : e.Fits ctx) :
    Sound (·.HasKind e.type.kind) (e.evaluate ctx) := by
  induction hb with
  | const v => exact .inr v.type_kind.symm
  | column c =>
      obtain ⟨v, hv, hkind⟩ := Column.Fits.read hf
      simp only [Expr.evaluate, hv]
      exact hkind
  | operation _ _ h ihl ihr =>
      obtain ⟨t, ht, rfl⟩ := build_ok h
      refine .bind (ihl hf.1) fun a ha => ?_
      exact .bind (ihr hf.2) fun b hb => Operator.combine_sound ctx.zoneOffset ht ha hb

/-! ## Sub-expressions -/

theorem built_operation {o : Operator} {l r : Expr} {forced : Option SqlType} {t : SqlType} :
    (operation o l r forced t).Built ↔
      l.Built ∧ r.Built ∧ o.resolve l.type r.type forced = .ok t := by
  constructor
  · intro hb
    cases hb with
    | operation hl hr h =>
        obtain ⟨t, ht, he⟩ := build_ok h
        cases he
        exact ⟨hl, hr, ht⟩
  · rintro ⟨hl, hr, ht⟩
    exact .operation hl hr (bind_eq_ok.mpr ⟨t, ht, rfl⟩)

theorem Built.descend {path : List Nat} {e' : Expr} (hb : e.Built) (hf : e.Fits ctx)
    (h : e.descend path = .ok e') : e'.Built ∧ e'.Fits ctx := by
  induction path generalizing e with
  | nil => cases h; exact ⟨hb, hf⟩
  | cons index path ih =>
      obtain ⟨child, hchild, hrest⟩ := descend_cons.mp h
      obtain ⟨o, l, r, forced, t, rfl, rfl | rfl⟩ := operand_ok hchild
      · exact ih (built_operation.mp hb).1 hf.1 hrest
      · exact ih (built_operation.mp hb).2.1 hf.2 hrest

/-! ## Soundness -/

/-- What an expression evaluates to is null or of the expression's kind, and what it fails with is a
data error. At none of its operations do the operands' values meet a check of their kinds that they
fail. -/
theorem evaluate_sound (hb : e.Built) (hf : e.Fits ctx) :
    (∀ v, e.evaluate ctx = .ok v → v = .null ∨ v.kind = e.type.kind) ∧
      (∀ err, e.evaluate ctx = .error err → ∃ d, err = .data d) ∧
      ∀ path o l r forced t a b, e.descend path = .ok (operation o l r forced t) →
        l.evaluate ctx = .ok a → r.evaluate ctx = .ok b → a ≠ .null → b ≠ .null →
          ∀ detail, o.apply ctx.zoneOffset forced a b ≠ .error (.internal detail) := by
  have hsound := hb.evaluate hf
  refine ⟨fun v hv => ?_, fun err herr => ?_, ?_⟩
  · rw [hv] at hsound
    exact hsound
  · rw [herr] at hsound
    exact hsound
  · intro path o l r forced t a b hpath ha hb' hna hnb detail hdetail
    -- The operation at the end of the path is itself built, whatever becomes of the root.
    obtain ⟨hbuilt, hfits⟩ := hb.descend hf hpath
    obtain ⟨hl, hr, ht⟩ := built_operation.mp hbuilt
    have hka := hl.evaluate hfits.1
    have hkb := hr.evaluate hfits.2
    rw [ha] at hka
    rw [hb'] at hkb
    have happly := Operator.apply_sound ctx.zoneOffset ht hna hnb (hka.resolve_left hna)
      (hkb.resolve_left hnb)
    rw [hdetail] at happly
    obtain ⟨d, hd⟩ := happly
    cases hd

/-- `x + (y - 1 MONTH)` where `x` is a date and `y` an interval of years: the inner type is
`INTERVAL YEAR TO MONTH`, and what the values of that type shift is a date again. -/
theorem evaluate_sound_of_nested_shift :
    let e := operation .datetimePlusInterval (column ⟨none, "x", .of .date, some 0, true⟩)
      (operation .intervalMinusInterval
        (column ⟨none, "y", .of (.interval .year), some 1, true⟩)
        (const (.interval ⟨.month, false, 1, 0⟩)) none (.of (.interval .yearToMonth)))
      none (.of .date)
    let ctx : Context := { row := [.date .epoch, .interval ⟨.year, true, 2, 0⟩] }
    e.Built ∧ e.Fits ctx ∧ (∀ v, e.evaluate ctx = .ok v → v = .null ∨ v.kind = .date) ∧
      ∀ err, e.evaluate ctx = .error err → ∃ d, err = .data d := by
  intro e ctx
  have hb : e.Built :=
    built_operation.mpr ⟨.column _, built_operation.mpr ⟨.column _, .const _, rfl⟩, rfl⟩
  have hf : e.Fits ctx :=
    ⟨⟨0, _, rfl, rfl, .inr rfl⟩, ⟨1, _, rfl, rfl, .inr rfl⟩, trivial⟩
  have h := evaluate_sound hb hf
  exact ⟨hb, hf, h.1, h.2.1⟩

end Expr

end SqlInterval
