import SqlInterval.Expr.Columns
import SqlInterval.Proofs.Expr.Folding

/-!
# The normal form of expressions

Folding leaves the operations that have a column below them, and a value for each of the others. What is
left does not change when it is folded again, in whatever context. The folding looks at no column, so that
columns may get their slots before it or after it.
-/

namespace SqlInterval.Expr

variable {ctx ctx' : Context} {o : Operator} {e e' l r : Expr} {forced : Option SqlType} {t : SqlType}

/-! ## Columns and operations of an expression -/

/-- The columns, from left to right. -/
def columns : Expr → List Column
  | const _ => []
  | column c => [c]
  | operation _ l r _ _ => l.columns ++ r.columns

def hasColumn (e : Expr) : Bool := !e.columns.isEmpty

/-- The sub-expressions that are operations, from the root down. -/
def operations : Expr → List Expr
  | operation o l r forced t => operation o l r forced t :: (l.operations ++ r.operations)
  | _ => []

@[simp] theorem hasColumn_operation :
    (operation o l r forced t).hasColumn = (l.hasColumn || r.hasColumn) := by
  simp only [hasColumn, columns]
  cases l.columns <;> rfl

theorem has_independent (e : Expr) : e.has .independent = !e.hasColumn := by
  induction e with
  | const v => rfl
  | column c => rfl
  | operation o l r forced t ihl ihr => rw [has, ihl, ihr, hasColumn_operation, Bool.not_or]

/-- No operation is left whose operands are both constants. -/
def Folded (e : Expr) : Prop :=
  ∀ o l r forced t, operation o l r forced t ∈ e.operations → (l.isConst && r.isConst) = false

theorem folded_operation : (operation o l r forced t).Folded ↔
    (l.isConst && r.isConst) = false ∧ l.Folded ∧ r.Folded := by
  constructor
  · intro h
    refine ⟨h _ _ _ _ _ List.mem_cons_self, fun _ _ _ _ _ hm => ?_, fun _ _ _ _ _ hm => ?_⟩
    · exact h _ _ _ _ _ (List.mem_cons_of_mem _ (List.mem_append_left _ hm))
    · exact h _ _ _ _ _ (List.mem_cons_of_mem _ (List.mem_append_right _ hm))
  · rintro ⟨hroot, hl, hr⟩ o' l' r' forced' t' hm
    rcases List.mem_cons.mp hm with heq | hm
    · cases heq
      exact hroot
    · rcases List.mem_append.mp hm with hm | hm
      · exact hl _ _ _ _ _ hm
      · exact hr _ _ _ _ _ hm

/-! ## Without columns -/

/-- An expression that reads no row is folded to its value, and fails to be folded with its error. -/
theorem foldConstants_of_independent (h : e.hasColumn = false) :
    e.foldConstants ctx = (e.evaluate ctx).map const := by
  induction e with
  | const v => rfl
  | column c => cases h
  | operation o l r forced t ihl ihr =>
      obtain ⟨hl, hr⟩ := Bool.or_eq_false_iff.mp (hasColumn_operation.symm.trans h)
      simp only [foldConstants, evaluate, ihl hl, ihr hr]
      cases l.evaluate ctx with
      | error err => rfl
      | ok a =>
          cases r.evaluate ctx with
          | error err => rfl
          | ok b =>
              cases hv : o.combine ctx.zoneOffset forced a b with
              | error err => simp only [Except.map, ok_bind, hv, error_bind]
              | ok v => simp only [Except.map, ok_bind, hv, pure_eq_ok]

/-! ## What is left -/

theorem isConst_of_foldConstants (h : e.foldConstants ctx = .ok e') : e'.isConst = !e.hasColumn := by
  induction e generalizing e' with
  | const v => cases h; rfl
  | column c => cases h; rfl
  | operation o l r forced t ihl ihr =>
      obtain ⟨l', r', hl, hr, hfold⟩ := foldConstants_operation_ok h
      rw [hasColumn_operation, Bool.not_or, ← ihl hl, ← ihr hr]
      rcases hfold with ⟨a, b, v, rfl, rfl, -, rfl⟩ | ⟨hconst, rfl⟩
      · rfl
      · exact hconst.symm

theorem folded_of_foldConstants (h : e.foldConstants ctx = .ok e') : e'.Folded := by
  induction e generalizing e' with
  | const v =>
      cases h
      exact fun _ _ _ _ _ hm => absurd hm List.not_mem_nil
  | column c =>
      cases h
      exact fun _ _ _ _ _ hm => absurd hm List.not_mem_nil
  | operation o l r forced t ihl ihr =>
      obtain ⟨l', r', hl, hr, ⟨a, b, v, -, -, -, rfl⟩ | ⟨hconst, rfl⟩⟩ :=
        foldConstants_operation_ok h
      · exact fun _ _ _ _ _ hm => absurd hm List.not_mem_nil
      · exact folded_operation.mpr ⟨hconst, ihl hl, ihr hr⟩

theorem Folded.foldConstants (h : e.Folded) (ctx : Context) : e.foldConstants ctx = .ok e := by
  induction e with
  | const v => rfl
  | column c => rfl
  | operation o l r forced t ihl ihr =>
      obtain ⟨hconst, hl, hr⟩ := folded_operation.mp h
      simp only [Expr.foldConstants, ihl hl, ihr hr, ok_bind]
      split
      · cases hconst
      · rfl

theorem columns_of_foldConstants (h : e.foldConstants ctx = .ok e') : e'.columns = e.columns := by
  induction e generalizing e' with
  | const v => cases h; rfl
  | column c => cases h; rfl
  | operation o l r forced t ihl ihr =>
      obtain ⟨l', r', hl, hr, hfold⟩ := foldConstants_operation_ok h
      rw [columns, ← ihl hl, ← ihr hr]
      rcases hfold with ⟨a, b, v, rfl, rfl, -, rfl⟩ | ⟨-, rfl⟩ <;> rfl

/-- What columns and operations cost altogether, as far as a word of 32 bits holds it. -/
theorem cost_eq (e : Expr) :
    e.cost = (2 * e.columns.length + e.operations.length) % UInt32.size := by
  induction e with
  | const v => rfl
  | column c => rfl
  | operation o l r forced t ihl ihr =>
      simp only [cost, costWord, columns, operations, List.length_append, List.length_cons,
        UInt32.toNat_add, UInt32.toNat_one, UInt32.size] at ihl ihr ⊢
      omega

/-- Just the operations with a column below them are left. -/
theorem operations_of_foldConstants (h : e.foldConstants ctx = .ok e') :
    e'.operations.length = e.operations.countP hasColumn := by
  induction e generalizing e' with
  | const v => cases h; rfl
  | column c => cases h; rfl
  | operation o l r forced t ihl ihr =>
      have hconst := isConst_of_foldConstants h
      obtain ⟨l', r', hl, hr, hfold⟩ := foldConstants_operation_ok h
      have hcl := ihl hl
      have hcr := ihr hr
      simp only [operations, List.countP_cons, List.countP_append]
      rcases hfold with ⟨a, b, v, rfl, rfl, -, rfl⟩ | ⟨-, rfl⟩
      · have hcolumn := (Bool.not_eq_true' _).mp hconst.symm
        simp only [hcolumn, Bool.false_eq_true, if_false, ← hcl, ← hcr]
        rfl
      · have hcolumn := (Bool.not_eq_false' _).mp hconst.symm
        simp only [operations, List.length_cons, List.length_append, hcolumn, if_true, hcl, hcr]

theorem cost_of_foldConstants (h : e.foldConstants ctx = .ok e') :
    e'.cost = (2 * e.columns.length + e.operations.countP hasColumn) % UInt32.size := by
  rw [cost_eq, columns_of_foldConstants h, operations_of_foldConstants h]

/-! ## Positions -/

theorem operand_of_foldConstants {index : Nat} {child' : Expr} (h : e.foldConstants ctx = .ok e')
    (hc : e'.operand index = .ok child') :
    ∃ child, e.operand index = .ok child ∧ child.foldConstants ctx = .ok child' := by
  cases e with
  | const v => cases h; cases hc
  | column c => cases h; cases hc
  | operation o l r forced t =>
      obtain ⟨l', r', hl, hr, ⟨a, b, v, -, -, -, rfl⟩ | ⟨-, rfl⟩⟩ := foldConstants_operation_ok h
      · cases hc
      · match index with
        | 0 => cases hc; exact ⟨l, rfl, hl⟩
        | 1 => cases hc; exact ⟨r, rfl, hr⟩
        | _ + 2 => cases hc

/-- What stands at a position of the folded expression is what the sub-expression at that position was
folded to. -/
theorem descend_of_foldConstants {path : List Nat} {n' : Expr} (h : e.foldConstants ctx = .ok e')
    (hn : e'.descend path = .ok n') :
    ∃ n, e.descend path = .ok n ∧ n.foldConstants ctx = .ok n' := by
  induction path generalizing e e' with
  | nil =>
      cases hn
      exact ⟨e, rfl, h⟩
  | cons index path ih =>
      obtain ⟨child', hchild', hrest⟩ := descend_cons.mp hn
      obtain ⟨child, hchild, hfold⟩ := operand_of_foldConstants h hchild'
      obtain ⟨n, hn, hn'⟩ := ih hfold hrest
      exact ⟨n, descend_cons.mpr ⟨child, hchild, hn⟩, hn'⟩

theorem hasColumn_of_operand {index : Nat} {child : Expr} (hc : e.operand index = .ok child)
    (h : child.hasColumn) : e.hasColumn := by
  obtain ⟨o, l, r, forced, t, rfl, rfl | rfl⟩ := operand_ok hc <;> simp [h]

theorem hasColumn_of_descend {path : List Nat} {n : Expr} (hn : e.descend path = .ok n)
    (h : n.hasColumn) : e.hasColumn := by
  induction path generalizing e with
  | nil =>
      cases hn
      exact h
  | cons index path ih =>
      obtain ⟨child, hchild, hrest⟩ := descend_cons.mp hn
      exact hasColumn_of_operand hchild (ih hrest)

theorem operand_foldConstants {index : Nat} {child : Expr} (h : e.foldConstants ctx = .ok e')
    (hc : e.operand index = .ok child) (hcolumn : child.hasColumn) :
    ∃ child', child.foldConstants ctx = .ok child' ∧ e'.operand index = .ok child' := by
  have hconst := isConst_of_foldConstants h
  rw [hasColumn_of_operand hc hcolumn] at hconst
  cases e with
  | const v => cases hc
  | column c => cases hc
  | operation o l r forced t =>
      obtain ⟨l', r', hl, hr, ⟨a, b, v, -, -, -, rfl⟩ | ⟨-, rfl⟩⟩ := foldConstants_operation_ok h
      · cases hconst
      · match index with
        | 0 => cases hc; exact ⟨l', hl, rfl⟩
        | 1 => cases hc; exact ⟨r', hr, rfl⟩
        | _ + 2 => cases hc

/-- A position stays as long as a column is there or further down. -/
theorem descend_foldConstants {path : List Nat} {n : Expr} (h : e.foldConstants ctx = .ok e')
    (hn : e.descend path = .ok n) (hcolumn : n.hasColumn) :
    ∃ n', n.foldConstants ctx = .ok n' ∧ e'.descend path = .ok n' := by
  induction path generalizing e e' with
  | nil =>
      cases hn
      exact ⟨e', h, rfl⟩
  | cons index path ih =>
      obtain ⟨child, hchild, hrest⟩ := descend_cons.mp hn
      obtain ⟨child', hfold, hchild'⟩ :=
        operand_foldConstants h hchild (hasColumn_of_descend hrest hcolumn)
      obtain ⟨n', hn', hrest'⟩ := ih hfold hrest
      exact ⟨n', hn', descend_cons.mpr ⟨child', hchild', hrest'⟩⟩

theorem operation_kept_iff {path : List Nat} (h : e.foldConstants ctx = .ok e')
    (hn : e.descend path = .ok (operation o l r forced t)) :
    (∃ l' r', e'.descend path = .ok (operation o l' r' forced t)) ↔
      (operation o l r forced t).hasColumn = true := by
  constructor
  · rintro ⟨l', r', hn'⟩
    obtain ⟨n, hn₀, hfold⟩ := descend_of_foldConstants h hn'
    cases hn.symm.trans hn₀
    exact (Bool.not_eq_false' _).mp (isConst_of_foldConstants hfold).symm
  · intro hcolumn
    obtain ⟨n', hfold, hn'⟩ := descend_foldConstants h hn hcolumn
    have hconst := isConst_of_foldConstants hfold
    rw [hcolumn] at hconst
    obtain ⟨l', r', -, -, ⟨a, b, v, -, -, -, rfl⟩ | ⟨-, rfl⟩⟩ := foldConstants_operation_ok hfold
    · cases hconst
    · exact ⟨l', r', hn'⟩

/-! ## Changes of columns -/

/-- Folding and a change of the columns do not disturb each other. -/
theorem foldConstants_mapColumns (f : Column → Column) (e : Expr) :
    (e.mapColumns f).foldConstants ctx = (e.foldConstants ctx).map (mapColumns f) := by
  induction e with
  | const v => rfl
  | column c => rfl
  | operation o l r forced t ihl ihr =>
      simp only [mapColumns, foldConstants, ihl, ihr]
      cases l.foldConstants ctx with
      | error err => rfl
      | ok l' =>
          cases r.foldConstants ctx with
          | error err => rfl
          | ok r' =>
              -- A column stays a column, so that the same operands are constants afterwards.
              cases l' with
              | const a =>
                  cases r' with
                  | const b =>
                      simp only [Except.map, mapColumns, ok_bind]
                      cases o.combine ctx.zoneOffset forced a b <;> rfl
                  | _ => rfl
              | _ => rfl

/-- What is done to the columns between building and evaluating an expression. -/
inductive Binding where
  | slots (s : RowSource)
  | evaluatable (tableAlias : String) (on : Bool)

def Binding.apply (e : Expr) : Binding → Expr
  | slots s => e.bindColumns s
  | evaluatable tableAlias on => e.setEvaluatable tableAlias on

/-- One binding after another. -/
def bindAll (bs : List Binding) (e : Expr) : Expr := bs.foldl Binding.apply e

theorem foldConstants_apply (b : Binding) (e : Expr) :
    (b.apply e).foldConstants ctx = (e.foldConstants ctx).map (b.apply ·) := by
  cases b with
  | slots s => exact foldConstants_mapColumns _ e
  | evaluatable tableAlias on => exact foldConstants_mapColumns _ e

theorem foldConstants_bindAll (bs : List Binding) (e : Expr) :
    (e.bindAll bs).foldConstants ctx = (e.foldConstants ctx).map (bindAll bs) := by
  induction bs generalizing e with
  | nil => cases h : e.foldConstants ctx <;> exact h
  | cons b bs ih =>
      change ((b.apply e).bindAll bs).foldConstants ctx = _
      rw [ih, foldConstants_apply]
      cases e.foldConstants ctx <;> rfl

/-! ## The normal form -/

/-- Folding an expression that reads no row is evaluating it. Of any other expression, folding keeps the
operations that have a column below them, each in its place; what is left costs as much as a word of 32 bits
holds of their costs; it is done after one time; and it can be done before or after the columns are bound. -/
theorem foldConstants_normal_form (e : Expr) (ctx : Context) :
    (e.has .independent → e.foldConstants ctx = (e.evaluate ctx).map const) ∧
      (∀ e', e.foldConstants ctx = .ok e' →
        e'.Folded ∧
          (∀ path o l r forced t, e.descend path = .ok (operation o l r forced t) →
            ((∃ l' r', e'.descend path = .ok (operation o l' r' forced t)) ↔
              (operation o l r forced t).hasColumn)) ∧
          (∀ path n', e'.descend path = .ok n' →
            ∃ n, e.descend path = .ok n ∧ n.foldConstants ctx = .ok n') ∧
          e'.columns = e.columns ∧
          e'.cost = (2 * e.columns.length + e.operations.countP hasColumn) % UInt32.size ∧
          ∀ ctx', e'.foldConstants ctx' = .ok e') ∧
      ∀ bs : List Binding,
        (e.bindAll bs).foldConstants ctx = (e.foldConstants ctx).map (bindAll bs) := by
  refine ⟨fun h => ?_, fun e' h => ?_, fun bs => foldConstants_bindAll bs e⟩
  · rw [has_independent, Bool.not_eq_true'] at h
    exact foldConstants_of_independent h
  · have hfolded := folded_of_foldConstants h
    exact ⟨hfolded, fun _ _ _ _ _ _ hn => operation_kept_iff h hn,
      fun _ _ hn => descend_of_foldConstants h hn, columns_of_foldConstants h,
      cost_of_foldConstants h, hfolded.foldConstants⟩

/-- `x + 2 DAY * 3` becomes `x + 6 DAY`, which costs three. The product alone becomes `6 DAY`; and the
column may get its slot before or after that. -/
theorem foldConstants_normal_form_of_shift :
    let product := operation .intervalMultiplyNumeric (const (.interval ⟨.day, false, 2, 0⟩))
      (const (.integer 3)) none (.of (.interval .day))
    let x := column ⟨some "E", "x", .of .date, none, false⟩
    let e := operation .datetimePlusInterval x product none (.of .date)
    let e' := operation .datetimePlusInterval x (const (.interval ⟨.day, false, 6, 0⟩)) none (.of .date)
    let bs := [Binding.slots ⟨"E", fun _ => some 4⟩, .evaluatable "E" true]
    (product.has .independent ∧ product.foldConstants {} = (product.evaluate {}).map const) ∧
      e.foldConstants {} = .ok e' ∧ e'.Folded ∧ e'.cost = 3 ∧
      ((∃ l' r', e'.descend [] = .ok (operation .datetimePlusInterval l' r' none (.of .date))) ↔
        e.hasColumn) ∧
      e'.foldConstants { settings := { zoneOffset := 3600 }, row := [.null] } = .ok e' ∧
      (e.bindAll bs).foldConstants {} = .ok (e'.bindAll bs) := by
  intro product x e e' bs
  have hproduct : product.has .independent := rfl
  have hfold : e.foldConstants {} = .ok e' := rfl
  obtain ⟨-, hleft, hbind⟩ := foldConstants_normal_form e {}
  obtain ⟨hfolded, hkept, -, -, hcost, hagain⟩ := hleft e' hfold
  refine ⟨⟨hproduct, (foldConstants_normal_form product {}).1 hproduct⟩, hfold, hfolded, hcost,
    hkept [] _ _ _ _ _ rfl, hagain _, ?_⟩
  rw [hbind bs, hfold]
  rfl

end SqlInterval.Expr
