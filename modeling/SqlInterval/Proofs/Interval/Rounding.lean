import SqlInterval.Proofs.Interval.Convert

/-!
# Rounding of seconds

Only what remains beside the leading field is rounded, and a full unit is carried. Since the leading unit
is a multiple of every digit of the seconds, this is to round the magnitude as a whole: to the nearest
multiple of the digit, and half up. What is such a multiple already stays as it is.
-/

namespace SqlInterval

/-! ## The nearest multiple -/

/-- `m` is the multiple of `unit` nearest to `n`, of two equally near ones the greater. -/
structure RoundsHalfUp (unit n m : Nat) : Prop where
  dvd : unit ∣ m
  le : 2 * m ≤ 2 * n + unit
  lt : 2 * n < 2 * m + unit

namespace RoundsHalfUp

variable {unit n m k : Nat}

theorem unique {m' : Nat} (h : RoundsHalfUp unit n m) (h' : RoundsHalfUp unit n m') : m = m' := by
  obtain ⟨⟨a, rfl⟩, hle, hlt⟩ := h
  obtain ⟨⟨b, rfl⟩, hle', hlt'⟩ := h'
  -- Two multiples that are less than one unit apart are the same.
  have hab : unit * a < unit * (b + 1) := by rw [Nat.mul_add]; omega
  have hba : unit * b < unit * (a + 1) := by rw [Nat.mul_add]; omega
  have := Nat.lt_of_mul_lt_mul_left hab
  have := Nat.lt_of_mul_lt_mul_left hba
  rw [(by omega : a = b)]

theorem of_dvd (hu : 0 < unit) (h : unit ∣ n) : RoundsHalfUp unit n n :=
  ⟨h, Nat.le_add_right _ _, Nat.lt_add_of_pos_right hu⟩

theorem add_left (h : RoundsHalfUp unit n m) (hk : unit ∣ k) :
    RoundsHalfUp unit (k + n) (k + m) := by
  have hle := h.le
  have hlt := h.lt
  exact ⟨Nat.dvd_add hk h.dvd, by omega, by omega⟩

theorem of_roundHalfUp (hu : 0 < unit) (n : Nat) : RoundsHalfUp unit n (roundHalfUp unit n) := by
  have hrest := Nat.mod_lt n hu
  have hle := Nat.mod_le n unit
  have hdvd : unit ∣ n - n % unit := Nat.dvd_sub_mod n
  unfold roundHalfUp
  dsimp only
  split
  · exact ⟨hdvd, by omega, by omega⟩
  · exact ⟨Nat.dvd_add hdvd (Nat.dvd_refl unit), by omega, by omega⟩

end RoundsHalfUp

theorem roundHalfUp_of_dvd {unit n : Nat} (hu : 0 < unit) (h : unit ∣ n) : roundHalfUp unit n = n :=
  (RoundsHalfUp.of_roundHalfUp hu n).unique (.of_dvd hu h)

theorem roundHalfUp_add_left {unit k : Nat} (hu : 0 < unit) (hk : unit ∣ k) (n : Nat) :
    roundHalfUp unit (k + n) = k + roundHalfUp unit n :=
  (RoundsHalfUp.of_roundHalfUp hu (k + n)).unique ((RoundsHalfUp.of_roundHalfUp hu n).add_left hk)

/-! ## Digits of seconds -/

theorem digitUnit_pos (scale : Nat) : 0 < digitUnit scale := Nat.pow_pos (by decide)

theorem digitUnit_dvd_of_le {s s' : Nat} (h : s ≤ s') : digitUnit s' ∣ digitUnit s :=
  Nat.pow_dvd_pow 10 (Nat.sub_le_sub_left h 9)

theorem digitUnit_dvd (scale : Nat) : digitUnit scale ∣ nanosPerSecond :=
  digitUnit_dvd_of_le (Nat.zero_le scale)

namespace Qualifier

variable {q : Qualifier}

theorem trailingUnit_of_hasSeconds (h : q.hasSeconds) : q.trailingUnit = 1 := if_pos h

theorem nanosPerSecond_le_leadingUnit (h : q.isYearMonth = false) :
    nanosPerSecond ≤ q.leadingUnit := by
  revert h
  cases q <;> decide

theorem digitUnit_dvd_unitsPerLeading (h : q.hasSeconds) (scale : Nat) :
    digitUnit scale ∣ q.unitsPerLeading := by
  refine Nat.dvd_trans (digitUnit_dvd scale) ?_
  revert h
  cases q <;> decide

end Qualifier

namespace Interval

variable {i j : Interval} {scale : Int}

theorem Valid.magnitude_of_hasSeconds (h : i.Valid) (hs : i.qualifier.hasSeconds) :
    i.magnitude = i.leading.toNat * i.qualifier.unitsPerLeading + i.remaining.toNat := by
  rw [magnitude_eq h.2.1, Qualifier.trailingUnit_of_hasSeconds hs, Nat.mul_one]

theorem absolute_of_hasSeconds {q : Qualifier} {a : Int} (h : ofAbsolute q a = .ok i)
    (hs : q.hasSeconds) : i.absolute = a := by
  rw [(ofAbsolute_ok h).2.2, Qualifier.trailingUnit_of_hasSeconds hs, Int.natCast_one, Int.tdiv_one,
    Int.mul_one]

/-- The leading field counts whole digits of the seconds, whichever digit it is. -/
theorem Valid.digitUnit_dvd_iff (h : i.Valid) (hs : i.qualifier.hasSeconds) (s : Nat) :
    digitUnit s ∣ i.magnitude ↔ digitUnit s ∣ i.remaining.toNat := by
  rw [h.magnitude_of_hasSeconds hs]
  exact Nat.dvd_add_right
    (Nat.dvd_mul_left_of_dvd (Qualifier.digitUnit_dvd_unitsPerLeading hs s) _)

theorem Valid.roundHalfUp_magnitude (h : i.Valid) (hs : i.qualifier.hasSeconds) (s : Nat) :
    roundHalfUp (digitUnit s) i.magnitude =
      i.leading.toNat * i.qualifier.unitsPerLeading + roundHalfUp (digitUnit s) i.remaining.toNat := by
  rw [h.magnitude_of_hasSeconds hs]
  exact roundHalfUp_add_left (digitUnit_pos s)
    (Nat.dvd_mul_left_of_dvd (Qualifier.digitUnit_dvd_unitsPerLeading hs s) _) _

/-! ## Intervals -/

theorem roundSeconds_of_le (h : 9 ≤ scale) : i.roundSeconds scale = .ok i := if_pos (.inl h)

theorem roundSeconds_of_no_seconds (h : i.qualifier.hasSeconds = false) :
    i.roundSeconds scale = .ok i := if_pos (.inr h)

theorem roundSeconds_of_dvd (h0 : 0 ≤ scale) (h : digitUnit scale.toNat ∣ i.remaining.toNat) :
    i.roundSeconds scale = .ok i := by
  unfold roundSeconds
  split
  · rfl
  · rw [if_neg (Int.not_lt.mpr h0), roundHalfUp_of_dvd (digitUnit_pos _) h]
    exact if_pos rfl

/-- What is left beside the leading field after rounding is a multiple of the last digit. -/
theorem roundSeconds_dvd (h : i.roundSeconds scale = .ok j) (hs : i.qualifier.hasSeconds)
    (h9 : scale < 9) : digitUnit scale.toNat ∣ j.remaining.toNat := by
  have hdvd := (RoundsHalfUp.of_roundHalfUp (digitUnit_pos scale.toNat) i.remaining.toNat).dvd
  unfold roundSeconds at h
  split at h
  · rename_i hround
    rw [hs, Qualifier.maxScale] at hround
    simp only [reduceCtorEq, or_false] at hround
    omega
  · split at h
    · cases h
    · dsimp only at h
      split at h
      · rename_i hsame
        cases h
        exact hsame ▸ hdvd
      · split at h
        · rw [(new_ok h).2.2.1]
          exact hdvd
        · split at h
          · cases h
          · rw [(new_ok h).2.2.1]
            exact Nat.dvd_sub hdvd (Qualifier.digitUnit_dvd_unitsPerLeading hs _)

/-- The magnitude is rounded as a whole, and the sign is kept. One more unit of the leading field may be
needed for it. -/
theorem Valid.roundSeconds_eq (h : i.Valid) (hs : i.qualifier.hasSeconds) (h0 : 0 ≤ scale)
    (h9 : scale < 9) (hroom : i.leading.toNat < maxLeading) :
    ∃ j, i.roundSeconds scale = .ok j ∧ j.qualifier = i.qualifier ∧ j.Valid ∧
      j.absolute = if i.negative then -(roundHalfUp (digitUnit scale.toNat) i.magnitude : Int)
        else roundHalfUp (digitUnit scale.toNat) i.magnitude := by
  have hround : ¬ (Qualifier.maxScale ≤ scale ∨ i.qualifier.hasSeconds = false) := by
    rw [hs, Qualifier.maxScale]
    simp only [reduceCtorEq, or_false]
    omega
  have htrailing := Qualifier.trailingUnit_of_hasSeconds hs
  rw [h.roundHalfUp_magnitude hs, Interval.roundSeconds, if_neg hround, if_neg (Int.not_lt.mpr h0)]
  dsimp only
  split
  · rename_i hsame
    rw [hsame, ← h.magnitude_of_hasSeconds hs]
    exact ⟨i, rfl, rfl, h, rfl⟩
  · split
    · rename_i hlt
      obtain ⟨j, hj⟩ : ∃ j, new i.qualifier i.negative i.leading.toNat _ = .ok j :=
        new_succeeds h.1 hlt
      have habs := absolute_new hj
      rw [htrailing, Nat.mul_one] at habs
      exact ⟨j, hj, (new_ok hj).1, new_valid hj, habs⟩
    · rename_i hcarry
      have hword : ¬ i.leading.toNat + 1 = UInt64.size := by
        simp only [maxLeading] at hroom
        simp only [UInt64.size]
        omega
      have hunit := digitUnit_le scale.toNat
      have hbound := Qualifier.nanosPerSecond_le hs
      have hrounded := roundHalfUp_le (digitUnit scale.toNat) i.remaining.toNat
      have hrest := h.2.1
      have hleft : roundHalfUp (digitUnit scale.toNat) i.remaining.toNat -
          i.qualifier.unitsPerLeading < i.qualifier.unitsPerLeading := by omega
      rw [if_neg hword]
      obtain ⟨j, hj⟩ : ∃ j, new i.qualifier i.negative (i.leading.toNat + 1) _ = .ok j :=
        new_succeeds hroom hleft
      have habs := absolute_new hj
      rw [htrailing, Nat.mul_one, Nat.add_mul, Nat.one_mul, Nat.add_assoc,
        Nat.add_sub_cancel' (Nat.not_lt.mp hcarry)] at habs
      exact ⟨j, hj, (new_ok hj).1, new_valid hj, habs⟩

end Interval

end SqlInterval
