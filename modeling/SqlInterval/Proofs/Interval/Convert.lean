import SqlInterval.Interval.Convert
import SqlInterval.Proofs.Interval.Absolute

/-!
# Changes of intervals

A valid interval stays valid however it is changed: some changes go through the check of the fields,
others give back the fields that they found. A change that has no result leaves one of three faults, and
among them is none of the part beside the leading field.
-/

namespace SqlInterval

theorem roundHalfUp_zero (unit : Nat) : roundHalfUp unit 0 = 0 := by
  simp only [roundHalfUp, Nat.zero_mod, Nat.mul_zero, Nat.sub_zero, Nat.zero_add]
  split <;> omega

theorem roundHalfUp_le (unit n : Nat) : roundHalfUp unit n ≤ n + unit := by
  have h := Nat.mod_le n unit
  unfold roundHalfUp
  dsimp only
  split <;> omega

theorem digitUnit_le (scale : Nat) : digitUnit scale ≤ nanosPerSecond :=
  Nat.pow_le_pow_right (by decide) (Nat.sub_le 9 scale)

theorem Qualifier.nanosPerSecond_le {q : Qualifier} (h : q.hasSeconds) :
    nanosPerSecond ≤ q.unitsPerLeading := by
  revert h
  cases q <;> decide

namespace Interval

variable {i j : Interval} {q : Qualifier}

/-! ## Where the result of a conversion comes from -/

theorem requalify_ok (h : i.requalify q = .ok j) : j.qualifier = q := by
  unfold requalify at h
  split at h
  · rename_i hq
    cases h
    exact hq.symm
  · split at h
    · cases h
    · exact (ofAbsolute_ok h).1

/-- Within a family a valid interval is converted through its absolute form, also to the qualifier that
it has. -/
theorem Valid.requalify_eq (h : i.Valid) (hq : i.qualifier.isYearMonth = q.isYearMonth) :
    i.requalify q = ofAbsolute q i.absolute := by
  unfold Interval.requalify
  split
  · rename_i hsame
    rw [hsame, ofAbsolute_absolute h]
  · rw [if_neg fun h => h hq.symm]

theorem requalify_of_other_family (h : q.isYearMonth ≠ i.qualifier.isYearMonth) :
    i.requalify q =
      .error (.conversion ("INTERVAL " ++ i.qualifier.text) ("INTERVAL " ++ q.text)) := by
  have hself : q ≠ i.qualifier := fun hq => h (hq ▸ rfl)
  rw [requalify, if_neg hself, if_pos h]

theorem roundSeconds_ok {scale : Int} (h : i.roundSeconds scale = .ok j) :
    j.qualifier = i.qualifier := by
  unfold roundSeconds at h
  split at h
  · cases h; rfl
  · split at h
    · cases h
    · dsimp only at h
      split at h
      · cases h; rfl
      · split at h
        · exact (new_ok h).1
        · split at h
          · cases h
          · exact (new_ok h).1

/-! ## Valid results and faults -/

/-- Why a valid interval cannot be changed. -/
inductive Fault : DataError → Prop where
  /-- The leading field has no room. -/
  | room {leading : Int} (h : maxLeading < leading.natAbs) : Fault (.number leading)
  /-- The families have no common unit. -/
  | family {p q : Qualifier} (h : p.isYearMonth ≠ q.isYearMonth) :
      Fault (.conversion ("INTERVAL " ++ p.text) ("INTERVAL " ++ q.text))
  /-- There are no fewer digits than none. -/
  | scale {scale : Int} (h : scale < 0) : Fault (.invalidValue "scale" (Numeral.text scale))

/-- A valid interval, or a fault. -/
def Regular : Except DataError Interval → Prop
  | .ok i => i.Valid
  | .error e => Fault e

theorem Valid.negate (h : i.Valid) : i.negate.Valid := by
  refine ⟨h.1, h.2.1, ?_⟩
  rintro ⟨hnegative, hzero⟩
  have hzero : i.isZero = true := hzero
  simp only [Interval.negate, hzero, Bool.not_true, Bool.and_false, Bool.false_eq_true] at hnegative

theorem new_regular {negative : Bool} {leading remaining : Nat}
    (hr : remaining < q.unitsPerLeading) : Regular (new q negative leading remaining) := by
  by_cases hl : leading ≤ maxLeading
  · obtain ⟨i, hi⟩ := new_succeeds hl hr
    rw [hi]
    exact new_valid hi
  · rw [new, if_pos (Nat.lt_of_not_le hl)]
    exact .room (Nat.lt_of_not_le hl)

theorem ofAbsolute_regular (q : Qualifier) (a : Int) : Regular (ofAbsolute q a) := by
  by_cases hmax : a.natAbs / q.leadingUnit ≤ maxLeading
  · obtain ⟨i, hi⟩ := ofAbsolute_succeeds hmax
    rw [hi]
    exact ofAbsolute_valid hi
  · have hmax := Nat.lt_of_not_le hmax
    rw [ofAbsolute_fails hmax]
    refine .room ?_
    rw [Int.natAbs_tdiv]
    exact hmax

theorem Valid.requalify (h : i.Valid) (q : Qualifier) : Regular (i.requalify q) := by
  by_cases hq : q.isYearMonth = i.qualifier.isYearMonth
  · rw [h.requalify_eq hq.symm]
    exact ofAbsolute_regular q _
  · rw [requalify_of_other_family hq]
    exact .family (Ne.symm hq)

theorem Valid.roundSeconds (h : i.Valid) (scale : Int) : Regular (i.roundSeconds scale) := by
  unfold Interval.roundSeconds
  split
  · exact h
  · rename_i hround
    obtain ⟨-, hseconds⟩ := not_or.mp hround
    split
    · rename_i hscale
      exact .scale hscale
    · have hunit := digitUnit_le scale.toNat
      have hbound := Qualifier.nanosPerSecond_le (Bool.not_eq_false _ ▸ hseconds)
      have hrounded := roundHalfUp_le (digitUnit scale.toNat) i.remaining.toNat
      have hrest := h.2.1
      dsimp only
      split
      · exact h
      · split
        · rename_i hlt
          exact new_regular hlt
        · split
          · rename_i hlead
            have hmax := h.1
            simp only [maxLeading] at hmax
            simp only [UInt64.size] at hlead
            omega
          -- What is left after the carry is again below the bound, which is at least one second.
          · exact new_regular (by omega)

/-! ## Chains of changes -/

inductive Change where
  | negate
  | requalify (q : Qualifier)
  | roundSeconds (scale : Int)
  | ofAbsolute (q : Qualifier) (a : Int)

namespace Change

def apply (i : Interval) : Change → Except DataError Interval
  | negate => .ok i.negate
  | requalify q => i.requalify q
  | roundSeconds scale => i.roundSeconds scale
  | ofAbsolute q a => Interval.ofAbsolute q a

/-- What the changes give one after another. One that fails gives nothing that the next could start
from, which starts from what was there before. -/
def outcomes (i : Interval) : List Change → List (Except DataError Interval)
  | [] => []
  | c :: cs =>
    match c.apply i with
    | .ok j => .ok j :: outcomes j cs
    | .error e => .error e :: outcomes i cs

theorem apply_regular (h : i.Valid) (c : Change) : Regular (c.apply i) := by
  cases c with
  | negate => exact h.negate
  | requalify q => exact h.requalify q
  | roundSeconds scale => exact h.roundSeconds scale
  | ofAbsolute q a => exact ofAbsolute_regular q a

theorem outcomes_regular (h : i.Valid) (cs : List Change) : ∀ x ∈ outcomes i cs, Regular x := by
  induction cs generalizing i with
  | nil => exact fun x hx => absurd hx List.not_mem_nil
  | cons c cs ih =>
      have hc := apply_regular h c
      simp only [outcomes]
      split
      · rename_i j hj
        rw [hj] at hc
        exact List.forall_mem_cons.mpr ⟨hc, ih hc⟩
      · rename_i e he
        rw [he] at hc
        exact List.forall_mem_cons.mpr ⟨hc, ih h⟩

end Change

end Interval

end SqlInterval
