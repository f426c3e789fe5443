import SqlInterval.Proofs.Interval.Literal
import SqlInterval.Proofs.Interval.Rounding
import SqlInterval.Proofs.Word.Basic

/-!
# Intervals in words

What remains beside the leading field of a valid interval is less than a day. It can be rounded up by a second, and
read with a sign, without leaving its word, and the leading field has room for a carry.
-/

namespace SqlInterval

namespace InWords

/-! ## The steps -/

/-- The number `n` of nanoseconds, rounded half up to so many digits of a second. -/
def roundNanos (n scale : Int) : Except WordFault Int :=
  if 9 ≤ scale then return n
  else do
    let digits ← Word.u32.step (9 - scale)
    let unit ← Word.u64.step (Nat.pow 10 digits.toNat)
    let whole ← Word.u64.step (n - n % unit)
    if unit / 2 ≤ n % unit then Word.u64.step (whole + unit) else return whole

/-- The interval with its seconds rounded and a full unit carried into the leading field. -/
def roundSeconds (i : Interval) (scale : Int) : Except WordFault Interval :=
  if Qualifier.maxScale ≤ scale ∨ i.qualifier.hasSeconds = false then return i
  else if scale < 0 then fail (.invalidValue "scale" (Numeral.text scale))
  else do
    let scale ← Word.u32.step scale
    let rounded ← roundNanos i.remaining.toNat scale
    if rounded = i.remaining.toNat then return i
    else if i.qualifier.unitsPerLeading ≤ rounded then do
      let rest ← Word.u64.step (rounded - i.qualifier.unitsPerLeading)
      let leading ← Word.u64.step (i.leading.toNat + 1)
      liftM (Interval.new i.qualifier i.negative leading.toNat rest.toNat)
    else liftM (Interval.new i.qualifier i.negative i.leading.toNat rounded.toNat)

/-! ## Rounding -/

theorem roundNanos_eq {n scale : Nat} (hn : n < 9223372036854775808) (hs : scale < 9) :
    roundNanos n scale = .ok (roundHalfUp (digitUnit scale) n : Nat) := by
  have hunit : Nat.pow 10 (9 - scale) = digitUnit scale := rfl
  have heven : 10 ∣ digitUnit scale := digitUnit_dvd_of_le (Nat.le_of_lt_succ hs)
  have hle : digitUnit scale ≤ 1000000000 := digitUnit_le scale
  have hrest := Nat.mod_le n (digitUnit scale)
  have hwhole : (n : Int) - (n : Int) % (digitUnit scale : Nat) =
      ((n - n % digitUnit scale : Nat) : Int) := by omega
  rw [roundNanos, if_neg (by omega), show (9 : Int) - scale = (9 - scale : Nat) by omega,
    Word.step_u32 (by omega), ok_bind, Int.toNat_natCast, hunit, Word.step_u64 (by omega), ok_bind,
    hwhole, Word.step_u64 (by omega), ok_bind, roundHalfUp]
  -- A unit that ends in zero has a half.
  by_cases hhalf : 2 * (n % digitUnit scale) < digitUnit scale
  · rw [if_neg (by omega), if_pos hhalf]
    rfl
  · rw [if_pos (by omega), if_neg hhalf, ← Int.natCast_add, Word.step_u64 (by omega)]

theorem roundSeconds_eq {i : Interval} (h : i.Valid) (scale : Int) :
    roundSeconds i scale = liftM (i.roundSeconds scale) := by
  unfold roundSeconds Interval.roundSeconds
  split
  · rfl
  · rename_i hround
    split
    · rfl
    · rename_i hscale
      obtain ⟨hmax, -⟩ := not_or.mp hround
      obtain ⟨s, rfl⟩ := Int.eq_ofNat_of_zero_le (Int.not_lt.mp hscale)
      have hs : s < 9 := Int.ofNat_lt.mp (Int.not_le.mp hmax)
      have hleading := h.1
      have hremaining := Nat.lt_of_lt_of_le h.2.1 i.qualifier.unitsPerLeading_le
      have hrounded := roundHalfUp_le (digitUnit s) i.remaining.toNat
      have hunit : digitUnit s ≤ 1000000000 := digitUnit_le s
      simp only [Interval.maxLeading, nanosPerDay] at hleading hremaining
      rw [Word.step_u32 (by omega), ok_bind, roundNanos_eq (by omega) hs, ok_bind]
      simp only [Int.toNat_natCast]
      generalize roundHalfUp (digitUnit s) i.remaining.toNat = rounded at hrounded ⊢
      by_cases hsame : rounded = i.remaining.toNat
      · rw [if_pos (Int.ofNat_inj.mpr hsame), if_pos hsame]
        rfl
      · rw [if_neg fun h => hsame (Int.ofNat_inj.mp h), if_neg hsame]
        by_cases hcarry : i.qualifier.unitsPerLeading ≤ rounded
        · have hword : ¬ i.leading.toNat + 1 = UInt64.size := by
            rw [UInt64.size]
            omega
          rw [if_pos (Int.ofNat_le.mpr hcarry), if_neg (Nat.not_lt.mpr hcarry), if_neg hword,
            ← Int.ofNat_sub hcarry, Word.step_u64 (by omega), ok_bind, ← Int.natCast_succ,
            Word.step_u64 (by omega), ok_bind, Int.toNat_natCast, Int.toNat_natCast]
        · rw [if_neg fun h => hcarry (Int.ofNat_le.mp h), if_pos (Nat.not_le.mp hcarry)]

/-! ## The literal -/

/-- With a sign the word holds the same number, which is what the literal shows. -/
theorem step_remaining {i : Interval} (h : i.Valid) :
    Word.i64.step i.remaining.toNat = .ok i.nanos := by
  have hremaining := Nat.lt_of_lt_of_le h.2.1 i.qualifier.unitsPerLeading_le
  simp only [nanosPerDay] at hremaining
  rw [h.nanos, Word.step_i64 (by omega)]

end InWords

end SqlInterval
