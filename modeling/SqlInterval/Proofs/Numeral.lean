import Mathlib.Algebra.Group.Nat.Defs
import SqlInterval.Numeral

/-!
# Numerals among other text

A reader takes the longest run of characters of one sort. It finds the numeral that was written there if
what follows begins with a character of another sort.
-/

namespace SqlInterval

/-! ## Runs of characters -/

/-- The text does not begin with a character that `p` holds of. -/
def Stops (p : Char → Bool) : List Char → Prop
  | [] => True
  | c :: _ => p c = false

section Stops

variable {p : Char → Bool} {c : Char} {cs ds rest other : List Char}

@[simp] theorem stops_cons : Stops p (c :: rest) ↔ p c = false := Iff.rfl

theorem Stops.takeWhile (h : Stops p rest) : rest.takeWhile p = [] := by
  cases rest with
  | nil => rfl
  | cons c rest => exact List.takeWhile_cons_of_neg (Bool.eq_false_iff.mp h)

theorem Stops.dropWhile (h : Stops p rest) : rest.dropWhile p = rest := by
  cases rest with
  | nil => rfl
  | cons c rest => exact List.dropWhile_cons_of_neg (Bool.eq_false_iff.mp h)

theorem Stops.takeWhile_append (h : Stops p rest) (hcs : ∀ c ∈ cs, p c) :
    (cs ++ rest).takeWhile p = cs := by
  rw [List.takeWhile_append_of_pos hcs, h.takeWhile, List.append_nil]

theorem Stops.dropWhile_append (h : Stops p rest) (hcs : ∀ c ∈ cs, p c) :
    (cs ++ rest).dropWhile p = rest := by
  rw [List.dropWhile_append_of_pos hcs, h.dropWhile]

/-- What begins with the one sort of characters does not begin with another. -/
theorem stops_append {q : Char → Bool} (hcs : ∀ c ∈ cs, p c) (hne : cs ≠ [])
    (hpq : ∀ c, p c = true → q c = false) : Stops q (cs ++ rest) := by
  cases cs with
  | nil => exact absurd rfl hne
  | cons c cs => exact hpq c (hcs c List.mem_cons_self)

/-- A run and what follows it can be told apart if both texts stop after their runs. -/
theorem Stops.append_inj (hrest : Stops p rest) (hother : Stops p other) (hcs : ∀ c ∈ cs, p c)
    (hds : ∀ c ∈ ds, p c) (h : cs ++ rest = ds ++ other) : cs = ds ∧ rest = other := by
  have hrun := hrest.takeWhile_append hcs
  rw [h, hother.takeWhile_append hds] at hrun
  exact ⟨hrun.symm, (List.append_right_inj cs).mp (hrun ▸ h)⟩

/-- The text begins with a character that has `P`. -/
def Begins (P : Char → Prop) (cs : List Char) : Prop := ∃ c ds, cs = c :: ds ∧ P c

theorem Begins.mono {P Q : Char → Prop} (h : Begins P cs) (hPQ : ∀ c, P c → Q c) : Begins Q cs := by
  obtain ⟨c, ds, hcs, hc⟩ := h
  exact ⟨c, ds, hcs, hPQ c hc⟩

theorem Begins.append {P : Char → Prop} (h : Begins P cs) (rest : List Char) :
    Begins P (cs ++ rest) := by
  obtain ⟨c, ds, rfl, hc⟩ := h
  exact ⟨c, ds ++ rest, rfl, hc⟩

theorem Begins.ne_cons {P : Char → Prop} (h : Begins P cs) (hc : ¬ P c) :
    cs ++ rest ≠ c :: other := by
  obtain ⟨d, ds, rfl, hd⟩ := h
  intro heq
  obtain ⟨rfl, -⟩ := List.cons.inj heq
  exact hc hd

theorem Begins.ne {P Q : Char → Prop} (h : Begins P cs) (h' : Begins Q ds)
    (hQP : ∀ c, Q c → ¬ P c) : cs ++ rest ≠ ds ++ other := by
  obtain ⟨d, ds, rfl, hd⟩ := h'
  exact h.ne_cons (hQP d hd)

end Stops

/-! ## Digits -/

theorem begins_digit {ds : List Char} (hds : ∀ c ∈ ds, c.isDigit) (hne : ds ≠ []) :
    Begins (·.isDigit) ds := by
  obtain ⟨c, cs, rfl⟩ := List.exists_cons_of_ne_nil hne
  exact ⟨c, cs, rfl, hds c List.mem_cons_self⟩

theorem toNat_of_isDigit {c : Char} (h : c.isDigit) : 48 ≤ c.toNat ∧ c.toNat ≤ 57 := by
  simp only [Char.isDigit, Bool.and_eq_true, decide_eq_true_eq] at h
  exact h

namespace Numeral

variable {n width : Nat}

theorem nat_digits (n : Nat) : ∀ c ∈ nat n, c.isDigit :=
  fun _ hc => Nat.isDigit_of_mem_toDigits (by decide) (by decide) hc

theorem pad_digits (width n : Nat) : ∀ c ∈ pad width n, c.isDigit := by
  intro c hc
  rcases List.mem_append.mp hc with hc | hc
  · rw [List.eq_of_mem_replicate hc]
    decide
  · exact nat_digits n c hc

theorem pad_ne_nil (width n : Nat) : pad width n ≠ [] :=
  List.append_ne_nil_of_right_ne_nil _ (nat_ne_nil n)

theorem length_pad (hw : 0 < width) (hn : n < 10 ^ width) : (pad width n).length = width := by
  have h := (Nat.length_toDigits_le_iff (b := 10) (by decide) hw).mpr hn
  rw [pad, List.length_append, List.length_replicate, nat]
  omega

/-- Zeros at the end multiply by powers of ten. -/
theorem nat_mul_pow (hn : n ≠ 0) (k : Nat) :
    nat (n * 10 ^ k) = nat n ++ List.replicate k '0' := by
  induction k with
  | zero => rw [Nat.pow_zero, Nat.mul_one, List.replicate_zero, List.append_nil]
  | succ k ih =>
      have hpos : 0 < n * 10 ^ k := Nat.mul_pos (Nat.pos_of_ne_zero hn) (Nat.pow_pos (by decide))
      have hsplit : nat (n * 10 ^ k * 10) = nat (n * 10 ^ k) ++ ['0'] := by
        rw [nat, Nat.toDigits_of_base_le (by decide) (by omega), Nat.mul_div_cancel _ (by decide),
          Nat.mul_mod_left]
        rfl
      rw [Nat.pow_succ, ← Nat.mul_assoc, hsplit, ih, List.append_assoc, List.replicate_succ']

theorem value_append_zeros (ds : List Char) (k : Nat) :
    value (ds ++ List.replicate k '0') = value ds * 10 ^ k := by
  rw [value, Nat.ofDigitChars_append, Nat.ofDigitChars_replicate_zero, Nat.mul_comm]
  rfl

theorem value_zeros_append (k : Nat) (ds : List Char) :
    value (List.replicate k '0' ++ ds) = value ds := by
  rw [value, Nat.ofDigitChars_append, Nat.ofDigitChars_replicate_zero, Nat.mul_zero]
  rfl

/-! ## What a numeral shows -/

theorem nat_inj {m n : Nat} (h : nat m = nat n) : m = n := by
  rw [← value_nat m, h, value_nat]

theorem pad_inj {m n : Nat} (h : pad width m = pad width n) : m = n := by
  rw [← value_pad width m, h, value_pad]

theorem nat_append_inj {m n : Nat} {r s : List Char} (hr : Stops Char.isDigit r)
    (hs : Stops Char.isDigit s) (h : nat m ++ r = nat n ++ s) : m = n ∧ r = s := by
  obtain ⟨hnat, hrest⟩ := hr.append_inj hs (nat_digits m) (nat_digits n) h
  exact ⟨nat_inj hnat, hrest⟩

/-- No digit is taken for a sign. -/
theorem nat_append_ne_minus {n : Nat} {r s : List Char} : nat n ++ r ≠ '-' :: s :=
  (begins_digit (nat_digits n) (nat_ne_nil n)).ne_cons (by decide)

theorem int_append_inj {y z : Int} {r s : List Char} (hr : Stops Char.isDigit r)
    (hs : Stops Char.isDigit s) (h : int y ++ r = int z ++ s) : y = z ∧ r = s := by
  unfold int at h
  split at h <;> split at h
  · obtain ⟨habs, hrest⟩ := nat_append_inj hr hs (List.cons.inj h).2
    exact ⟨by omega, hrest⟩
  · exact absurd h.symm nat_append_ne_minus
  · exact absurd h nat_append_ne_minus
  · obtain ⟨habs, hrest⟩ := nat_append_inj hr hs h
    exact ⟨by omega, hrest⟩

theorem pad_append_inj {m n : Nat} {r s : List Char} (hr : Stops Char.isDigit r)
    (hs : Stops Char.isDigit s) (h : pad width m ++ r = pad width n ++ s) : m = n ∧ r = s := by
  obtain ⟨hpad, hrest⟩ := hr.append_inj hs (pad_digits width m) (pad_digits width n) h
  exact ⟨pad_inj hpad, hrest⟩

theorem padInt_natCast (width n : Nat) : padInt width n = pad width n :=
  if_neg (Int.not_lt.mpr (Int.natCast_nonneg n))

theorem dropTrailingZeros_append (ds : List Char) :
    ∃ k, dropTrailingZeros ds ++ List.replicate k '0' = ds := by
  refine ⟨(ds.reverse.takeWhile (· == '0')).length, List.reverse_inj.mp ?_⟩
  have hzeros : ds.reverse.takeWhile (· == '0') =
      List.replicate (ds.reverse.takeWhile (· == '0')).length '0' := by
    refine List.eq_replicate_of_mem fun c hc => ?_
    exact beq_iff_eq.mp (List.all_eq_true.mp List.all_takeWhile c hc)
  rw [List.reverse_append, List.reverse_replicate, ← hzeros, dropTrailingZeros, List.reverse_reverse,
    List.takeWhile_append_dropWhile]

/-- Of digits as many as there were, the zeros at the end are no loss. -/
theorem dropTrailingZeros_inj {cs ds : List Char} (hlen : cs.length = ds.length)
    (h : dropTrailingZeros cs = dropTrailingZeros ds) : cs = ds := by
  obtain ⟨k, hk⟩ := dropTrailingZeros_append cs
  obtain ⟨l, hl⟩ := dropTrailingZeros_append ds
  have hkl : k = l := by
    rw [← hk, ← hl, h, List.length_append, List.length_append, List.length_replicate,
      List.length_replicate] at hlen
    exact Nat.add_left_cancel hlen
  rw [← hk, ← hl, h, hkl]

theorem dropTrailingZeros_subset (ds : List Char) : dropTrailingZeros ds ⊆ ds := by
  obtain ⟨k, hk⟩ := dropTrailingZeros_append ds
  intro c hc
  rw [← hk]
  exact List.mem_append_left _ hc

/-- Only zero is written with a zero in front. -/
theorem head?_nat (h : (nat n).head? = some '0') : n = 0 := by
  induction n using Nat.strongRecOn with
  | ind n ih =>
      rw [nat, Nat.toDigits_eq_if (by decide)] at h
      split at h
      · rename_i hn
        have hdigit : n.digitChar = '0' := Option.some.inj h
        exact Nat.digitChar_eq_zero.mp hdigit
      · rename_i hn
        obtain ⟨c, cs, hcs⟩ := List.exists_cons_of_ne_nil (nat_ne_nil (n / 10))
        have hhead : (nat (n / 10)).head? = some '0' := by
          rw [hcs]
          rwa [← nat, hcs] at h
        have hzero := ih (n / 10) (Nat.div_lt_self (by omega) (by decide)) hhead
        omega

end Numeral

/-! ## Fractions -/

/-- A character that a number with a fraction can go on with. -/
def isFractionChar (c : Char) : Bool := c.isDigit || c = '.'

theorem Stops.digits {rest : List Char} (h : Stops isFractionChar rest) :
    Stops Char.isDigit rest := by
  cases rest with
  | nil => trivial
  | cons c rest => exact (Bool.or_eq_false_iff.mp h).1

theorem Stops.no_point {rest cs : List Char} (h : Stops isFractionChar rest) : rest ≠ '.' :: cs := by
  rintro rfl
  cases h

end SqlInterval
