import SqlInterval.Proofs.Decimal.Arithmetic
import SqlInterval.Proofs.Operator.Typing

/-!
# What the operators can tell apart

Of a number an operator sees only which number it is, not its kind or its scale, and of a prescribed type
only how it is cast to. Between operators with one sign the sorts of the operands decide.
-/

namespace SqlInterval

/-! ## Numbers -/

theorem Decimal.divInt_congr {a d e : Decimal} (h : d.toRat = e.toRat) : a.divInt d = a.divInt e := by
  by_cases hd : d.unscaled = 0
  · have he : e.unscaled = 0 := toRat_eq_zero.mp (h ▸ toRat_eq_zero.mpr hd)
    simp only [divInt, isZero, hd, he, decide_true, if_true]
  · have he : e.unscaled ≠ 0 := fun he => hd (toRat_eq_zero.mp (h ▸ toRat_eq_zero.mpr he))
    rw [divInt_eq hd, divInt_eq he, h]

namespace Value

/-- The values are the same, or numbers that are equal whatever their kinds and scales are. -/
inductive Alike : Value → Value → Prop where
  | refl (v : Value) : Alike v v
  | numbers {v w : Value} {d e : Decimal} (hv : v.toDecimal = .ok d) (hw : w.toDecimal = .ok e)
      (h : d.toRat = e.toRat) : Alike v w

end Value

theorem scaleInterval_congr {l r r' : Value} (multiply : Bool) (h : r.Alike r') :
    scaleInterval multiply l r = scaleInterval multiply l r' := by
  cases h with
  | refl => rfl
  | @numbers _ d e hr hr' h =>
      have hmul (a : Decimal) : (a.mul d).truncate = (a.mul e).truncate := by
        rw [Decimal.truncate_eq, Decimal.truncate_eq, Decimal.toRat_mul, Decimal.toRat_mul, h]
      have hdiv (a : Decimal) : a.divInt d = a.divInt e := Decimal.divInt_congr h
      unfold scaleInterval
      cases l.toInterval with
      | error err => rfl
      | ok i => simp only [ok_bind, hr, hr', lift_ok, hmul, hdiv]

/-! ## Sorts of operands -/

inductive OperandSort where
  | interval | datetime | number
deriving DecidableEq

def Kind.sort? : Kind → Option OperandSort
  | .interval _ => some .interval
  | .date | .time | .timeTz | .timestamp | .timestampTz => some .datetime
  | .integer | .bigInt | .decimal | .double => some .number
  | .null => none

namespace Operator

def leftSort : Operator → OperandSort
  | datetimePlusInterval | datetimeMinusInterval | datetimeMinusDatetime => .datetime
  | _ => .interval

def rightSort : Operator → OperandSort
  | intervalMultiplyNumeric | intervalDivideNumeric => .number
  | datetimeMinusDatetime => .datetime
  | _ => .interval

/-- No two operators with one sign take operands of the same sorts. -/
theorem eq_of_token_eq {o o' : Operator} (htoken : o.token = o'.token)
    (hl : o.leftSort = o'.leftSort) (hr : o.rightSort = o'.rightSort) : o = o' := by
  revert htoken hl hr
  cases o <;> cases o' <;> decide

theorem resolve_sorts {o : Operator} {l r t : SqlType} {forced : Option SqlType}
    (h : o.resolve l r forced = .ok t) (hl : l.kind ≠ .null) (hr : r.kind ≠ .null) :
    l.kind.sort? = some o.leftSort ∧ r.kind.sort? = some o.rightSort := by
  have hinterval {k : Kind} (h : k.isInterval) : k.sort? = some .interval := by
    obtain ⟨q, rfl⟩ := Kind.exists_interval h
    rfl
  have hdatetime {k : Kind} (h : k.isDatetime) : k.sort? = some .datetime := by
    cases k <;> first | rfl | cases h
  have hnumber {k : Kind} (h : k.isNumeric) : k.sort? = some .number := by
    cases k <;> first | rfl | cases h
  obtain ⟨-, h⟩ := resolve_eq_ok.mp h
  cases o with
  | intervalPlusInterval | intervalMinusInterval =>
      obtain ⟨a, b, -, ha, hb, -⟩ := resolveSum_eq_some hl hr h
      exact ⟨hinterval (by rw [ha]; rfl), hinterval (by rw [hb]; rfl)⟩
  | intervalDivideInterval =>
      obtain ⟨a, b, ha, hb, -⟩ := resolveRatio_eq_some hl hr h
      exact ⟨hinterval (by rw [ha]; rfl), hinterval (by rw [hb]; rfl)⟩
  | datetimePlusInterval | datetimeMinusInterval =>
      simp only [resolve?, resolveShift] at h
      split at h
      · rename_i hkinds
        exact ⟨hdatetime (hkinds.1.resolve_left hl), hinterval (hkinds.2.resolve_left hr)⟩
      · cases h
  | intervalMultiplyNumeric | intervalDivideNumeric =>
      simp only [resolve?, resolveScaling] at h
      split at h
      · rename_i hkinds
        exact ⟨hinterval (hkinds.1.resolve_left hl), hnumber (hkinds.2.resolve_left hr)⟩
      · cases h
  | datetimeMinusDatetime =>
      simp only [resolve?, resolveDifference] at h
      split at h
      · rename_i hkinds
        exact ⟨hdatetime (hkinds.1.resolve_left hl), hdatetime (hkinds.2.resolve_left hr)⟩
      · cases h

end Operator

namespace Value

variable {v w : Value}

theorem sort_of_toDecimal {d : Decimal} (h : v.toDecimal = .ok d) : v.kind.sort? = some .number := by
  cases v <;> first | rfl | cases h

theorem Alike.sort_eq (h : v.Alike w) : v.kind.sort? = w.kind.sort? := by
  cases h with
  | refl => rfl
  | numbers hv hw => rw [sort_of_toDecimal hv, sort_of_toDecimal hw]

theorem Alike.eq (h : v.Alike w) (hv : v.kind.sort? ≠ some .number) : v = w := by
  cases h with
  | refl => rfl
  | numbers h => exact absurd (sort_of_toDecimal h) hv

theorem sort?_eq_none : v.kind.sort? = none ↔ v = .null := by
  cases v <;> simp [kind, Kind.sort?]

end Value

/-! ## Operations -/

/-- No type is prescribed, or types that every interval is cast to in one way. -/
inductive ForcedAlike : Option SqlType → Option SqlType → Prop where
  | none : ForcedAlike none none
  | some {t t' : SqlType} (h : ∀ i : Interval, i.cast t = i.cast t') : ForcedAlike (some t) (some t')

namespace Operator

variable {o o' : Operator} {session : ZoneOffset} {forced forced' : Option SqlType} {l l' r r' : Value}

theorem apply_congr (hforced : ForcedAlike forced forced') (hr : r.Alike r')
    (hsort : r.kind.sort? = some o.rightSort) :
    o.apply session forced l r = o.apply session forced' l r' := by
  by_cases hnumber : o.rightSort = .number
  · cases o with
    | intervalMultiplyNumeric | intervalDivideNumeric => exact scaleInterval_congr _ hr
    | _ => cases hnumber
  · obtain rfl := hr.eq (hsort ▸ fun h => hnumber (Option.some.inj h))
    cases hforced with
    | none => rfl
    | some h => cases o <;> simp only [apply, subtractDatetimes, h]

theorem combine_null (h : l = .null ∨ r = .null) : o.combine session forced l r = .ok .null := by
  obtain rfl | rfl := h
  · rfl
  · simp [combine, Value.isNull]

/-- Operations that look the same have the same outcome. Which operator it is does not matter beside a
null. -/
theorem combine_congr (htoken : o.token = o'.token) (hforced : ForcedAlike forced forced')
    (hl : l.Alike l') (hr : r.Alike r')
    (hsorts : l ≠ .null → r ≠ .null →
      l.kind.sort? = some o.leftSort ∧ r.kind.sort? = some o.rightSort)
    (hsorts' : l' ≠ .null → r' ≠ .null →
      l'.kind.sort? = some o'.leftSort ∧ r'.kind.sort? = some o'.rightSort) :
    o.combine session forced l r = o'.combine session forced' l' r' := by
  have hnull {v w : Value} (h : v.Alike w) : v = .null ↔ w = .null := by
    rw [← Value.sort?_eq_none, ← Value.sort?_eq_none, h.sort_eq]
  by_cases h : l = .null ∨ r = .null
  · have h' : l' = .null ∨ r' = .null := h.imp (hnull hl).mp (hnull hr).mp
    rw [combine_null h, combine_null h']
  · obtain ⟨hnl, hnr⟩ := not_or.mp h
    have hnl' := mt (hnull hl).mpr hnl
    have hnr' := mt (hnull hr).mpr hnr
    obtain ⟨hleft, hright⟩ := hsorts hnl hnr
    obtain ⟨hleft', hright'⟩ := hsorts' hnl' hnr'
    have hl_sort : o.leftSort = o'.leftSort :=
      Option.some.inj (hleft.symm.trans (hl.sort_eq.trans hleft'))
    have hr_sort : o.rightSort = o'.rightSort :=
      Option.some.inj (hright.symm.trans (hr.sort_eq.trans hright'))
    obtain rfl := eq_of_token_eq htoken hl_sort hr_sort
    -- No operator has a number on its left.
    have hne : l.kind.sort? ≠ some .number := by
      rw [hleft]
      cases o <;> decide
    rw [combine_of_ne_null hnl hnr, combine_of_ne_null hnl' hnr', ← hl.eq hne]
    exact apply_congr hforced hr hright

end Operator

end SqlInterval
