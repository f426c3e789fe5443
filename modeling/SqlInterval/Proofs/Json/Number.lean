import SqlInterval.Proofs.Json.Basic
import SqlInterval.Value.Document

/-!
# Integers in documents

An integer that fits a word is read back from its digits.
-/

namespace SqlInterval

namespace Json

/-! ## Numbers from their digits -/

theorem NumberParts.ofChars?_int (z : Int) :
    NumberParts.ofChars? (Numeral.int z) =
      some ⟨decide (z < 0), Numeral.nat z.natAbs, [], none⟩ := by
  have hdigits := Numeral.nat_digits z.natAbs
  have hend : Stops Char.isDigit [] := trivial
  have htake := hend.takeWhile_append hdigits
  have hdrop := hend.dropWhile_append hdigits
  rw [List.append_nil] at htake hdrop
  have hwhole : ¬ (Numeral.nat z.natAbs = [] ∨
      (Numeral.nat z.natAbs).head? = some '0' ∧ Numeral.nat z.natAbs ≠ ['0']) := by
    rintro (hnil | ⟨hhead, hne⟩)
    · exact Numeral.nat_ne_nil _ hnil
    · rw [Numeral.head?_nat hhead] at hne
      exact hne rfl
  by_cases hz : z < 0
  · have hchars : Numeral.int z = '-' :: Numeral.nat z.natAbs := if_pos hz
    simp only [NumberParts.ofChars?, hchars, List.head?_cons, decide_true, if_true, List.tail_cons,
      htake, hdrop, fraction?, Option.bind_eq_bind, Option.bind_some, if_neg hwhole, hz]
  · have hchars : Numeral.int z = Numeral.nat z.natAbs := if_neg hz
    have hsign : (Numeral.nat z.natAbs).head? ≠ some '-' := by
      intro hhead
      have hmem := List.mem_of_mem_head? hhead
      exact absurd (hdigits _ hmem) (by decide)
    simp only [NumberParts.ofChars?, hchars, hsign, decide_false, if_false,
      htake, hdrop, fraction?, Option.bind_eq_bind, Option.bind_some, if_neg hwhole, hz]

theorem Number.ofChars?_int {z : Int} (hlo : Int64.minValue.toInt ≤ z) (hhi : z < UInt64.size) :
    Number.ofChars? (Numeral.int z) = some (.integer z) := by
  rw [Number.ofChars?, NumberParts.ofChars?_int, Option.bind_some, Number.ofParts?]
  simp only [Numeral.value_nat, wordSize, UInt64.size] at hhi ⊢
  have hmin : Int64.minValue.toInt = -9223372036854775808 := by decide
  by_cases hz : z < 0
  · have hneg : -(z.natAbs : Int) = z := by omega
    have habs : 0 < z.natAbs ∧ z.natAbs ≤ 18446744073709551616 / 2 := by omega
    simp only [hz, hneg, habs, decide_true, Bool.not_true, Bool.false_eq_true, false_and, and_false,
      and_self, if_true, if_false]
  · have habs : (z.natAbs : Int) = z := by omega
    have hlt : z.natAbs < 18446744073709551616 := by omega
    simp only [hz, habs, hlt, decide_false, Bool.not_false, and_self, if_true]

/-! ## Words -/

theorem written_ofInt (z : Int) : (ofInt z).Written := by
  refine ⟨fun c hc => ?_, by rw [NumberParts.ofChars?_int]; rfl⟩
  have hdigit (c : Char) (hc : c ∈ Numeral.nat z.natAbs) : isNumberChar c := by
    simp [isNumberChar, Numeral.nat_digits _ c hc]
  unfold Numeral.int at hc
  split at hc
  · rcases List.mem_cons.mp hc with rfl | hc
    · rfl
    · exact hdigit c hc
  · exact hdigit c hc

theorem integer?_ofInt {z lo hi : Int} (hlo : lo ≤ z) (hhi : z ≤ hi)
    (hmin : Int64.minValue.toInt ≤ z) (hmax : z < UInt64.size) :
    (ofInt z).integer? lo hi = some z := by
  have hnumber : (ofInt z).number? = some (.integer z) := Number.ofChars?_int hmin hmax
  simp only [integer?, hnumber, hlo, hhi, and_self, if_true]

theorem int32?_ofInt (n : Int32) : (ofInt n.toInt).int32? = some n := by
  have hmin : Int64.minValue.toInt ≤ n.toInt := Int.le_trans (by decide) n.minValue_le_toInt
  have hmax : n.toInt < UInt64.size := Int.lt_trans n.toInt_lt (by decide)
  rw [int32?, integer?_ofInt n.minValue_le_toInt n.toInt_le hmin hmax, Option.map_some,
    Int32.ofInt_toInt]

theorem int64?_ofInt (n : Int64) : (ofInt n.toInt).int64? = some n := by
  have hmax : n.toInt < UInt64.size := Int.lt_trans n.toInt_lt (by decide)
  rw [int64?, integer?_ofInt n.minValue_le_toInt n.toInt_le n.minValue_le_toInt hmax,
    Option.map_some, Int64.ofInt_toInt]

theorem uint64?_ofInt (n : UInt64) : (ofInt n.toNat).uint64? = some n := by
  have hlt := n.toNat_lt_size
  have hmin : Int64.minValue.toInt ≤ n.toNat := Int.le_trans (by decide) (Int.natCast_nonneg _)
  have hhi : (n.toNat : Int) ≤ UInt64.size - 1 := by omega
  rw [uint64?, integer?_ofInt (Int.natCast_nonneg _) hhi hmin (by omega), Option.map_some,
    Int.toNat_natCast, UInt64.ofNat_toNat]

end Json

end SqlInterval
