import SqlInterval.Interval.Absolute

/-!
# The absolute form and the way back

A valid interval counts whole trailing units. The way back from a number succeeds as long as the
leading field has room, and gives the interval whose absolute form is that number, cut off toward zero
at the trailing unit.
-/

namespace SqlInterval

namespace Qualifier

theorem leadingUnit_le (q : Qualifier) : q.leadingUnit ≤ nanosPerDay := by cases q <;> decide

theorem unitsPerLeading_le (q : Qualifier) : q.unitsPerLeading ≤ nanosPerDay := by
  cases q <;> decide

theorem trailingUnit_dvd_leadingUnit (q : Qualifier) : q.trailingUnit ∣ q.leadingUnit :=
  ⟨q.unitsPerLeading, by rw [Nat.mul_comm, q.unitsPerLeading_mul_trailingUnit]⟩

end Qualifier

namespace Interval

variable {q : Qualifier} {negative : Bool} {leading remaining : Nat} {i : Interval}

/-! ## Intervals from their fields -/

theorem new_ok (h : new q negative leading remaining = .ok i) :
    i.qualifier = q ∧ i.leading.toNat = leading ∧ i.remaining.toNat = remaining ∧ i.Valid ∧
      i.negative = (negative && (leading ≠ 0 || remaining ≠ 0)) := by
  unfold new at h
  split at h
  · cases h
  · rename_i hl
    split at h
    · cases h
    · rename_i hr
      have hq := q.unitsPerLeading_le
      simp only [maxLeading, nanosPerDay] at hl hq
      have hleading : (UInt64.ofNat leading).toNat = leading :=
        UInt64.toNat_ofNat_of_lt' (by simp only [UInt64.size]; omega)
      have hremaining : (UInt64.ofNat remaining).toNat = remaining :=
        UInt64.toNat_ofNat_of_lt' (by simp only [UInt64.size]; omega)
      cases h
      refine ⟨rfl, hleading, hremaining, ⟨?_, ?_, ?_⟩, rfl⟩
      · simp only [hleading, maxLeading]; omega
      · simp only [hremaining]; omega
      · rintro ⟨hneg, hzero⟩
        simp only [isZero, Bool.and_eq_true, decide_eq_true_eq, ← UInt64.toNat_inj, hleading,
          hremaining] at hzero
        simp_all

theorem new_valid (h : new q negative leading remaining = .ok i) : i.Valid := (new_ok h).2.2.2.1

theorem new_succeeds (hl : leading ≤ maxLeading) (hr : remaining < q.unitsPerLeading) :
    ∃ i, new q negative leading remaining = .ok i := by
  unfold new
  rw [if_neg (by omega), if_neg (by omega)]
  exact ⟨_, rfl⟩

/-- A qualifier with one unit to the leading field leaves nothing beside it, so that the two weights
of what remains agree on all intervals within their bounds. -/
theorem magnitude_eq (h : i.remaining.toNat < i.qualifier.unitsPerLeading) :
    i.magnitude = (i.leading.toNat * i.qualifier.unitsPerLeading + i.remaining.toNat) *
      i.qualifier.trailingUnit := by
  rw [magnitude, ← Qualifier.unitsPerLeading_mul_trailingUnit, Nat.add_mul, Nat.mul_assoc,
    Qualifier.remainingUnit]
  split
  · have : i.remaining.toNat = 0 := by omega
    simp [this]
  · rfl

theorem absolute_new (h : new q negative leading remaining = .ok i) :
    i.absolute = if negative then
      -(((leading * q.unitsPerLeading + remaining) * q.trailingUnit : Nat) : Int)
      else ((leading * q.unitsPerLeading + remaining) * q.trailingUnit : Nat) := by
  obtain ⟨hq, hl, hr, hv, hn⟩ := new_ok h
  rw [absolute, magnitude_eq hv.2.1, hq, hl, hr, hn]
  by_cases hz : leading = 0 ∧ remaining = 0
  · simp [hz.1, hz.2]
  · have : (decide (leading ≠ 0) || decide (remaining ≠ 0)) = true := by
      simp only [Bool.or_eq_true, decide_eq_true_eq]; omega
    rw [this, Bool.and_true]

theorem natAbs_absolute (i : Interval) : i.absolute.natAbs = i.magnitude := by
  unfold absolute
  split <;> simp

theorem Valid.trailingUnit_dvd (h : i.Valid) : (i.qualifier.trailingUnit : Int) ∣ i.absolute := by
  rw [← Int.dvd_natAbs, natAbs_absolute, magnitude_eq h.2.1]
  exact Int.natCast_dvd_natCast.mpr (Nat.dvd_mul_left _ _)

/-- The leading field bounds the whole: what remains is less than one leading unit. -/
theorem Valid.magnitude_lt (h : i.Valid) :
    i.magnitude < (maxLeading + 1) * i.qualifier.leadingUnit := by
  have hunits : i.leading.toNat * i.qualifier.unitsPerLeading + i.remaining.toNat <
      (i.leading.toNat + 1) * i.qualifier.unitsPerLeading := by
    rw [Nat.add_mul, Nat.one_mul]
    exact Nat.add_lt_add_left h.2.1 _
  calc
    i.magnitude = _ := magnitude_eq h.2.1
    _ < (i.leading.toNat + 1) * i.qualifier.unitsPerLeading * i.qualifier.trailingUnit :=
      Nat.mul_lt_mul_of_pos_right hunits i.qualifier.trailingUnit_pos
    _ = (i.leading.toNat + 1) * i.qualifier.leadingUnit := by
      rw [Nat.mul_assoc, Qualifier.unitsPerLeading_mul_trailingUnit]
    _ ≤ (maxLeading + 1) * i.qualifier.leadingUnit :=
      Nat.mul_le_mul_right _ (Nat.succ_le_succ h.1)

/-! ## Intervals from a number -/

theorem tdiv_tdiv (a : Int) (m n : Nat) : (a.tdiv m).tdiv n = a.tdiv (m * n : Nat) := by
  obtain ⟨k, rfl | rfl⟩ := a.eq_nat_or_neg
  · simp only [← Int.ofNat_tdiv, Nat.div_div_eq_div_mul]
  · simp only [Int.neg_tdiv, ← Int.ofNat_tdiv, Nat.div_div_eq_div_mul]

/-- What is cut off at a unit makes no difference to a quotient by one of its multiples. -/
theorem tdiv_mul_tdiv {m n : Nat} (hm : 0 < m) (h : m ∣ n) (a : Int) :
    (a.tdiv m * m).tdiv n = a.tdiv n := by
  obtain ⟨k, rfl⟩ := h
  rw [← tdiv_tdiv, ← tdiv_tdiv a, Int.mul_tdiv_cancel _ (Int.natCast_ne_zero.mpr (Nat.ne_of_gt hm))]

/-- The way back works on the magnitude alone. -/
theorem ofAbsolute_eq (q : Qualifier) (a : Int) :
    ofAbsolute q a =
      if maxLeading < a.natAbs / q.leadingUnit then .error (.number (a.tdiv q.leadingUnit))
      else new q (a < 0) (a.natAbs / q.leadingUnit)
        (a.natAbs / q.trailingUnit % q.unitsPerLeading) := by
  have hlead : (a.tdiv q.trailingUnit).tdiv q.unitsPerLeading = a.tdiv q.leadingUnit := by
    rw [tdiv_tdiv, Nat.mul_comm, q.unitsPerLeading_mul_trailingUnit]
  have habs : (a.tdiv q.leadingUnit).natAbs = a.natAbs / q.leadingUnit := by
    rw [Int.natAbs_tdiv]; rfl
  have hrest : ((a.tdiv q.trailingUnit).tmod q.unitsPerLeading).natAbs =
      a.natAbs / q.trailingUnit % q.unitsPerLeading := by
    rw [Int.natAbs_tmod, Int.natAbs_tdiv]; rfl
  simp only [ofAbsolute, hlead, habs, hrest]

theorem ofAbsolute_ok {a : Int} (h : ofAbsolute q a = .ok i) :
    i.qualifier = q ∧ i.Valid ∧ i.absolute = a.tdiv q.trailingUnit * q.trailingUnit := by
  rw [ofAbsolute_eq] at h
  split at h
  · cases h
  · obtain ⟨hq, -, -, hv, -⟩ := new_ok h
    refine ⟨hq, hv, ?_⟩
    have hunits : a.natAbs / q.leadingUnit * q.unitsPerLeading +
        a.natAbs / q.trailingUnit % q.unitsPerLeading = a.natAbs / q.trailingUnit := by
      rw [← q.unitsPerLeading_mul_trailingUnit, Nat.mul_comm q.unitsPerLeading,
        ← Nat.div_div_eq_div_mul, Nat.mul_comm, Nat.div_add_mod]
    rw [absolute_new h, hunits]
    by_cases ha : a < 0
    · obtain ⟨n, rfl⟩ : ∃ n : Nat, a = -(n : Int) := ⟨a.natAbs, by omega⟩
      simp only [ha, decide_true, if_true, Int.natAbs_neg, Int.natAbs_natCast, Int.neg_tdiv,
        ← Int.ofNat_tdiv, Int.natCast_mul, Int.neg_mul]
    · obtain ⟨n, rfl⟩ := Int.eq_ofNat_of_zero_le (Int.not_lt.mp ha)
      simp only [ha, decide_false, Bool.false_eq_true, if_false, Int.natAbs_natCast,
        ← Int.ofNat_tdiv, Int.natCast_mul]

theorem ofAbsolute_valid {a : Int} (h : ofAbsolute q a = .ok i) : i.Valid := (ofAbsolute_ok h).2.1

theorem ofAbsolute_succeeds {a : Int} (h : a.natAbs / q.leadingUnit ≤ maxLeading) :
    ∃ i, ofAbsolute q a = .ok i := by
  rw [ofAbsolute_eq, if_neg (by omega)]
  exact new_succeeds h (Nat.mod_lt _ q.unitsPerLeading_pos)

theorem ofAbsolute_fails {a : Int} (h : maxLeading < a.natAbs / q.leadingUnit) :
    ofAbsolute q a = .error (.number (a.tdiv q.leadingUnit)) := by
  rw [ofAbsolute_eq, if_pos h]

/-- A number that is a multiple of the trailing unit comes back unchanged. -/
theorem ofAbsolute_exact {a : Int} (h : (q.trailingUnit : Int) ∣ a)
    (hmax : a.natAbs / q.leadingUnit ≤ maxLeading) :
    ∃ i, ofAbsolute q a = .ok i ∧ i.qualifier = q ∧ i.absolute = a := by
  obtain ⟨i, hi⟩ := ofAbsolute_succeeds hmax
  obtain ⟨hq, -, ha⟩ := ofAbsolute_ok hi
  exact ⟨i, hi, hq, ha.trans (Int.tdiv_mul_cancel h)⟩

/-- Whole trailing units are split into the fields as they are. -/
theorem ofAbsolute_mul {n : Int} (hmax : n.natAbs / q.unitsPerLeading ≤ maxLeading) :
    ofAbsolute q (n * q.trailingUnit) =
      new q (n < 0) (n.natAbs / q.unitsPerLeading) (n.natAbs % q.unitsPerLeading) := by
  have htrailing := q.trailingUnit_pos
  have hsign : n * q.trailingUnit < 0 ↔ n < 0 := by
    have h := Int.mul_lt_mul_right (b := n) (c := 0) (Int.natCast_pos.mpr htrailing)
    rwa [Int.zero_mul] at h
  have habs : (n * q.trailingUnit).natAbs = n.natAbs * q.trailingUnit := by
    rw [Int.natAbs_mul, Int.natAbs_natCast]
  rw [ofAbsolute_eq, habs, ← q.unitsPerLeading_mul_trailingUnit,
    Nat.mul_div_mul_right _ _ htrailing, Nat.mul_div_cancel _ htrailing, if_neg (by omega)]
  simp only [hsign]

/-! ## There and back -/

theorem isZero_iff : i.isZero = true ↔ i.leading.toNat = 0 ∧ i.remaining.toNat = 0 := by
  simp only [isZero, Bool.and_eq_true, decide_eq_true_eq, ← UInt64.toNat_inj]
  rfl

theorem magnitude_eq_zero (h : i.Valid) : i.magnitude = 0 ↔ i.isZero = true := by
  have hunits := i.qualifier.unitsPerLeading_pos
  have htrailing := i.qualifier.trailingUnit_pos
  rw [magnitude_eq h.2.1, isZero_iff, Nat.mul_eq_zero, Nat.add_eq_zero_iff, Nat.mul_eq_zero]
  omega

/-- The sign is that of the absolute form, since zero has none. -/
theorem Valid.absolute_neg (h : i.Valid) : i.absolute < 0 ↔ i.negative = true := by
  have hzero := magnitude_eq_zero h
  have hsign := h.2.2
  cases hn : i.negative with
  | true =>
      have hpos : i.magnitude ≠ 0 := fun h0 => hsign ⟨hn, hzero.mp h0⟩
      rw [absolute, if_pos hn]
      exact iff_of_true (by omega) rfl
  | false =>
      rw [absolute, if_neg (by rw [hn]; exact Bool.false_ne_true)]
      exact iff_of_false (by omega) Bool.false_ne_true

theorem Valid.magnitude_div_leadingUnit (h : i.Valid) :
    i.magnitude / i.qualifier.leadingUnit = i.leading.toNat := by
  rw [magnitude_eq h.2.1, ← Qualifier.unitsPerLeading_mul_trailingUnit,
    Nat.mul_div_mul_right _ _ i.qualifier.trailingUnit_pos, Nat.add_comm,
    Nat.add_mul_div_right _ _ i.qualifier.unitsPerLeading_pos, Nat.div_eq_of_lt h.2.1,
    Nat.zero_add]

theorem Valid.magnitude_div_mod (h : i.Valid) :
    i.magnitude / i.qualifier.trailingUnit % i.qualifier.unitsPerLeading = i.remaining.toNat := by
  rw [magnitude_eq h.2.1, Nat.mul_div_cancel _ i.qualifier.trailingUnit_pos,
    Nat.mul_add_mod_self_right, Nat.mod_eq_of_lt h.2.1]

theorem Valid.new_fields (h : i.Valid) :
    new i.qualifier i.negative i.leading.toNat i.remaining.toNat = .ok i := by
  obtain ⟨hl, hr, hz⟩ := h
  have hsign : (i.negative && (decide (i.leading.toNat ≠ 0) || decide (i.remaining.toNat ≠ 0))) =
      i.negative := by
    rw [isZero_iff] at hz
    cases hn : i.negative with
    | false => rfl
    | true =>
        simp only [hn, true_and] at hz
        simp only [Bool.true_and, Bool.or_eq_true, decide_eq_true_eq]
        omega
  rw [new, if_neg (by omega), if_neg (by omega), hsign, UInt64.ofNat_toNat, UInt64.ofNat_toNat]

/-- A valid interval comes back from its absolute form. -/
theorem ofAbsolute_absolute (h : i.Valid) : ofAbsolute i.qualifier i.absolute = .ok i := by
  have hmax : ¬ maxLeading < i.leading.toNat := Nat.not_lt.mpr h.1
  rw [ofAbsolute_eq, natAbs_absolute, h.magnitude_div_leadingUnit, h.magnitude_div_mod, if_neg hmax]
  simp only [h.absolute_neg, Bool.decide_eq_true]
  exact h.new_fields

theorem Valid.eq_of_absolute {j : Interval} (hi : i.Valid) (hj : j.Valid)
    (hq : i.qualifier = j.qualifier) (ha : i.absolute = j.absolute) : i = j := by
  have hback := ofAbsolute_absolute hi
  rw [hq, ha, ofAbsolute_absolute hj] at hback
  exact (Except.ok.inj hback).symm

/-- Whatever is less than a divisor of the trailing unit makes no difference to the way back. -/
theorem ofAbsolute_tdiv_mul {u : Nat} (hu : 0 < u) (h : u ∣ q.trailingUnit) (a : Int) :
    ofAbsolute q (a.tdiv u * u) = ofAbsolute q a := by
  have hlead : (a.tdiv u * u).tdiv q.leadingUnit = a.tdiv q.leadingUnit :=
    tdiv_mul_tdiv hu (Nat.dvd_trans h q.trailingUnit_dvd_leadingUnit) a
  have habs : (a.tdiv u * u).natAbs / q.leadingUnit = a.natAbs / q.leadingUnit := by
    have hnat := congrArg Int.natAbs hlead
    rwa [Int.natAbs_tdiv, Int.natAbs_tdiv] at hnat
  by_cases hmax : a.natAbs / q.leadingUnit ≤ maxLeading
  · obtain ⟨i, hi⟩ := ofAbsolute_succeeds hmax
    obtain ⟨j, hj⟩ := ofAbsolute_succeeds (habs ▸ hmax)
    obtain ⟨hiq, hiv, hia⟩ := ofAbsolute_ok hi
    obtain ⟨hjq, hjv, hja⟩ := ofAbsolute_ok hj
    have habsolute : j.absolute = i.absolute := by rw [hja, hia, tdiv_mul_tdiv hu h]
    rw [hi, hj, hjv.eq_of_absolute hiv (hjq.trans hiq.symm) habsolute]
  · have hmax := Nat.lt_of_not_le hmax
    rw [ofAbsolute_fails hmax, ofAbsolute_fails (habs ▸ hmax), hlead]

/-- The absolute form loses nothing. The way back from a number works exactly as long as the leading
field has room for it, and all that it drops is less than one trailing unit. -/
theorem ofAbsolute_inverts_absolute :
    (∀ i : Interval, i.Valid → ofAbsolute i.qualifier i.absolute = .ok i) ∧
      ∀ (q : Qualifier) (a : Int),
        ((∃ i, ofAbsolute q a = .ok i) ↔ a.natAbs / q.leadingUnit ≤ maxLeading) ∧
        (maxLeading < a.natAbs / q.leadingUnit →
          ofAbsolute q a = .error (.number (a.tdiv q.leadingUnit))) ∧
        ∀ i, ofAbsolute q a = .ok i →
          i.Valid ∧ i.qualifier = q ∧ i.absolute = a.tdiv q.trailingUnit * q.trailingUnit ∧
            (i.absolute = 0 → i.negative = false) := by
  refine ⟨fun i h => ofAbsolute_absolute h,
    fun q a => ⟨⟨?_, ofAbsolute_succeeds⟩, ofAbsolute_fails, ?_⟩⟩
  · rintro ⟨i, h⟩
    refine Nat.le_of_not_lt fun hmax => ?_
    rw [ofAbsolute_fails hmax] at h
    cases h
  · intro i h
    obtain ⟨hq, hv, ha⟩ := ofAbsolute_ok h
    refine ⟨hv, hq, ha, fun hzero => ?_⟩
    rw [← Bool.not_eq_true, ← hv.absolute_neg]
    omega

/-- One day, two hours and some, backwards. One nanosecond backwards is no day at all, and has no
sign then. -/
theorem ofAbsolute_inverts_absolute_backwards :
    (⟨.dayToSecond, true, 1, 7384000000005⟩ : Interval).Valid ∧
      ofAbsolute .dayToSecond (-93784000000005) = .ok ⟨.dayToSecond, true, 1, 7384000000005⟩ ∧
      (∀ i, ofAbsolute .day (-1) = .ok i → i.absolute = 0 ∧ i.negative = false) ∧
      ofAbsolute .month (-1000000000000000000) = .error (.number (-1000000000000000000)) := by
  have hv : (⟨.dayToSecond, true, 1, 7384000000005⟩ : Interval).Valid := by decide
  refine ⟨hv, ofAbsolute_inverts_absolute.1 _ hv, fun i h => ?_,
    (ofAbsolute_inverts_absolute.2 .month (-1000000000000000000)).2.1 (by decide)⟩
  obtain ⟨-, -, ha, hsign⟩ := (ofAbsolute_inverts_absolute.2 .day (-1)).2.2 i h
  exact ⟨ha, hsign ha⟩

end Interval

end SqlInterval
