import SqlInterval.Operator.Sum
import SqlInterval.Proofs.Interval.Absolute
import SqlInterval.Proofs.Outcome
import SqlInterval.Proofs.Qualifier

/-!
# Sums of two intervals

Both operands count whole trailing units of the result, so that nothing is cut off: a sum is exact, or
its leading field has no room for it.
-/

namespace SqlInterval

/-! ## The amount that is added -/

theorem signed_add (plus : Bool) (a b : Int) : signed plus (a + b) = signed plus a + signed plus b := by
  cases plus
  · exact Int.neg_add
  · rfl

@[simp] theorem signed_true (a : Int) : signed true a = a := rfl

@[simp] theorem signed_false (a : Int) : signed false a = -a := rfl

theorem signed_not (plus : Bool) (a : Int) : signed (!plus) a = -signed plus a := by
  cases plus <;> simp

theorem add_signed_not (plus : Bool) (a b : Int) : a + signed plus b + signed (!plus) b = a := by
  rw [signed_not, Int.add_neg_cancel_right]

theorem dvd_signed {d a : Int} (plus : Bool) (h : d ∣ a) : d ∣ signed plus a := by
  cases plus
  · exact Int.dvd_neg.mpr h
  · exact h

/-! ## Two intervals -/

namespace Interval

variable {plus : Bool} {i j : Interval} {q : Qualifier}

theorem trailingUnit_dvd_sum (plus : Bool) (hi : i.Valid) (hj : j.Valid)
    (hq : i.qualifier.join? j.qualifier = some q) :
    (q.trailingUnit : Int) ∣ i.absolute + signed plus j.absolute := by
  obtain ⟨hqi, hqj⟩ := Qualifier.join?_trailingUnit_dvd hq
  have hdi := Int.dvd_trans (Int.natCast_dvd_natCast.mpr hqi) hi.trailingUnit_dvd
  have hdj := Int.dvd_trans (Int.natCast_dvd_natCast.mpr hqj) hj.trailingUnit_dvd
  exact Int.dvd_add hdi (dvd_signed plus hdj)

end Interval

namespace Interval

variable {plus : Bool} {i j k : Interval} {q : Qualifier} {v : Value}

theorem addIntervals_of_ofAbsolute {a : Int} (hq : i.qualifier.join? j.qualifier = some q)
    (ha : i.absolute + signed plus j.absolute = a) (hk : ofAbsolute q a = .ok k) :
    addIntervals plus (.interval i) (.interval j) = .ok (.interval k) := by
  simp only [addIntervals, Value.toInterval, ok_bind, hq, ha, hk]
  rfl

theorem addIntervals_exact (hi : i.Valid) (hj : j.Valid)
    (hq : i.qualifier.join? j.qualifier = some q)
    (hmax : (i.absolute + signed plus j.absolute).natAbs / q.leadingUnit ≤ maxLeading) :
    ∃ k : Interval, addIntervals plus (.interval i) (.interval j) = .ok (.interval k) ∧
      k.qualifier = q ∧ k.absolute = i.absolute + signed plus j.absolute := by
  obtain ⟨k, hk, hkq, hka⟩ := ofAbsolute_exact (trailingUnit_dvd_sum plus hi hj hq) hmax
  exact ⟨k, addIntervals_of_ofAbsolute hq rfl hk, hkq, hka⟩

theorem addIntervals_fails (hq : i.qualifier.join? j.qualifier = some q)
    (hmax : maxLeading < (i.absolute + signed plus j.absolute).natAbs / q.leadingUnit) :
    addIntervals plus (.interval i) (.interval j) =
      .error (.data (.number ((i.absolute + signed plus j.absolute).tdiv q.leadingUnit))) := by
  simp only [addIntervals, Value.toInterval, ok_bind, hq, ofAbsolute_fails hmax]
  rfl

theorem addIntervals_ok (hi : i.Valid) (hj : j.Valid)
    (h : addIntervals plus (.interval i) (.interval j) = .ok v) :
    ∃ k : Interval, v = .interval k ∧ k.Valid ∧
      i.qualifier.join? j.qualifier = some k.qualifier ∧
      k.absolute = i.absolute + signed plus j.absolute := by
  simp only [addIntervals, Value.toInterval, ok_bind] at h
  split at h
  · rename_i q hq
    obtain ⟨k, hk, h⟩ := bind_eq_ok.mp h
    cases h
    obtain ⟨hkq, hkv, hka⟩ := ofAbsolute_ok (lift_eq_ok.mp hk)
    rw [Int.tdiv_mul_cancel (trailingUnit_dvd_sum plus hi hj hq)] at hka
    exact ⟨k, rfl, hkv, hkq ▸ hq, hka⟩
  · cases h

/-- What was added can be taken away again: the leading unit of the sum is none smaller than that of
the first operand, so that there is room for it. -/
theorem addIntervals_undo (hi : i.Valid) (hj : j.Valid)
    (h : addIntervals plus (.interval i) (.interval j) = .ok (.interval k)) :
    ∃ m : Interval, addIntervals (!plus) (.interval k) (.interval j) = .ok (.interval m) ∧
      m.absolute = i.absolute := by
  obtain ⟨_, hk, hv, hkq, hka⟩ := addIntervals_ok hi hj h
  cases hk
  obtain ⟨hik, hjk⟩ := Qualifier.join?_family hkq
  obtain ⟨q, hq⟩ := Qualifier.exists_join? hjk.symm
  have hamount : k.absolute + signed (!plus) j.absolute = i.absolute := by
    rw [hka, add_signed_not]
  have hunit : i.qualifier.leadingUnit ≤ q.leadingUnit :=
    Nat.le_trans (Qualifier.leadingUnit_le_join? hkq) (Qualifier.leadingUnit_le_join? hq)
  have hmax : (k.absolute + signed (!plus) j.absolute).natAbs / q.leadingUnit ≤ maxLeading := by
    calc
      _ = i.magnitude / q.leadingUnit := by rw [hamount, natAbs_absolute]
      _ ≤ i.magnitude / i.qualifier.leadingUnit :=
        Nat.div_le_div_left hunit (Field.unit_pos _)
      _ = i.leading.toNat := hi.magnitude_div_leadingUnit
      _ ≤ maxLeading := hi.1
  obtain ⟨m, hm, -, hma⟩ := addIntervals_exact hv hj hq hmax
  exact ⟨m, hm, hma.trans hamount⟩

end Interval

end SqlInterval
