import SqlInterval.Proofs.Operator.Scaling
import SqlInterval.Proofs.Operator.Sum

/-!
# Whole multiples of intervals

Nothing is cut off from a whole multiple, and no partial sum lies further from zero than the whole does:
multiplying by an integer is adding again and again, and dividing takes it back. Fractions of fractions are
cut off at each step, but never differ from one fraction by the product.
-/

namespace SqlInterval

variable {q : Qualifier} {a b : Int} {outcome : Except EvalError Value} {v w : Value}

/-! ## Intervals for one number -/

theorem Value.IsInterval.fits (h : v.IsInterval q a) :
    a.natAbs / q.leadingUnit ≤ Interval.maxLeading := by
  obtain ⟨i, -, hv, rfl, rfl⟩ := h
  rw [Interval.natAbs_absolute, hv.magnitude_div_leadingUnit]
  exact hv.1

theorem Value.IsInterval.unique (hv : v.IsInterval q a) (hw : w.IsInterval q a) : v = w := by
  obtain ⟨i, rfl, hi, hqi, hai⟩ := hv
  obtain ⟨j, rfl, hj, hqj, haj⟩ := hw
  rw [hi.eq_of_absolute hj (hqi.trans hqj.symm) (hai.trans haj.symm)]

theorem Delivers.eq_ok_iff (h : Delivers q a outcome) : outcome = .ok v ↔ v.IsInterval q a := by
  constructor
  · intro hv
    by_cases hmax : a.natAbs / q.leadingUnit ≤ Interval.maxLeading
    · obtain ⟨w, hw, hwa⟩ := h.value hmax
      rwa [Except.ok.inj (hv.symm.trans hw)]
    · cases hv.symm.trans (h.fault (Nat.lt_of_not_le hmax))
  · intro hv
    obtain ⟨w, hw, hwa⟩ := h.value hv.fits
    rw [hw, hv.unique hwa]

theorem Value.IsInterval.trailingUnit_dvd (h : v.IsInterval q a) : (q.trailingUnit : Int) ∣ a := by
  obtain ⟨i, -, hv, rfl, rfl⟩ := h
  exact hv.trailingUnit_dvd

/-- Where there is room for a number, there is room for all that are no further from zero. -/
theorem Value.IsInterval.of_le (hv : v.IsInterval q b) (hdvd : (q.trailingUnit : Int) ∣ a)
    (hle : a.natAbs ≤ b.natAbs) : ∃ w : Value, w.IsInterval q a := by
  obtain ⟨i, hi, hq, ha⟩ := Interval.ofAbsolute_exact hdvd ((Nat.div_le_div_right hle).trans hv.fits)
  exact ⟨.interval i, i, rfl, Interval.ofAbsolute_valid hi, hq, ha⟩

theorem Interval.Valid.isInterval {i : Interval} (h : i.Valid) :
    (Value.interval i).IsInterval i.qualifier i.absolute :=
  ⟨i, rfl, h, rfl, rfl⟩

/-! ## Sums, whole multiples and fractions -/

variable {session : ZoneOffset} {forced : Option SqlType} {p : Qualifier} {r u : Value} {n : Int}

theorem delivers_sum {i j : Interval} (plus : Bool) (hi : i.Valid) (hj : j.Valid)
    (hq : i.qualifier.join? j.qualifier = some q) :
    Delivers q (i.absolute + signed plus j.absolute)
      (addIntervals plus (.interval i) (.interval j)) where
  value hmax := by
    obtain ⟨k, hk, -⟩ := Interval.addIntervals_exact hi hj hq hmax
    obtain ⟨m, hm, hv, hmq, hma⟩ := Interval.addIntervals_ok hi hj hk
    exact ⟨_, hk, m, hm, hv, Option.some.inj (hmq.symm.trans hq), hma⟩
  fault := Interval.addIntervals_fails hq

theorem combine_plus_eq_ok_iff {s : Qualifier} (hv : v.IsInterval p a) (hw : w.IsInterval q b)
    (hjoin : p.join? q = some s) :
    Operator.intervalPlusInterval.combine session forced v w = .ok u ↔ u.IsInterval s (a + b) := by
  obtain ⟨i, rfl, hi, rfl, rfl⟩ := hv
  obtain ⟨j, rfl, hj, rfl, rfl⟩ := hw
  exact (delivers_sum true hi hj hjoin).eq_ok_iff

theorem CutsOff.of_dvd (hdvd : (q.trailingUnit : Int) ∣ a) : CutsOff q.trailingUnit a a := by
  obtain ⟨n, rfl⟩ := hdvd
  rw [Int.mul_comm, Int.cast_mul, Int.cast_natCast]
  exact .of_multiple (Nat.cast_pos.mpr q.trailingUnit_pos) n

/-- Nothing is cut off from a whole multiple. -/
theorem combine_multiply_eq_ok_iff (hv : v.IsInterval q a) (hr : r.IsNumber n) :
    Operator.intervalMultiplyNumeric.combine session forced v r = .ok w ↔
      w.IsInterval q (a * n) := by
  have hexact : CutsOff q.trailingUnit (a * n : Int) (a * n : Int) :=
    .of_dvd (Int.dvd_mul_of_dvd_left hv.trailingUnit_dvd)
  obtain ⟨i, rfl, hi, rfl, rfl⟩ := hv
  obtain ⟨b, hcut, hb⟩ := exists_product i hr
  rw [← Int.cast_mul] at hcut
  rw [Int.cast_injective (hcut.unique hexact)] at hb
  rw [hr.combine_multiply]
  exact hb.eq_ok_iff

/-- There is room for every fraction: it is no further from zero than the whole. -/
theorem exists_combine_divide (session : ZoneOffset) (forced : Option SqlType)
    (hv : v.IsInterval q a) (hr : r.IsNumber n) (hn : n ≠ 0) :
    ∃ w b, Operator.intervalDivideNumeric.combine session forced v r = .ok w ∧
      w.IsInterval q b ∧ CutsOff q.trailingUnit ((a : ℚ) / n) b := by
  have hfits := hv.fits
  obtain ⟨i, rfl, hi, rfl, rfl⟩ := hv
  obtain ⟨b, hcut, hb⟩ := exists_quotient i hr (Int.cast_ne_zero.mpr hn)
  have hle : |(b : ℚ)| ≤ |(i.absolute : ℚ)| := by
    refine hcut.within.trans ?_
    rw [abs_div]
    exact div_le_self (abs_nonneg _) (one_le_abs_intCast hn)
  have hmagnitude : b.natAbs ≤ i.absolute.natAbs := by
    rwa [abs_intCast, abs_intCast, Nat.cast_le] at hle
  obtain ⟨w, hw, hwb⟩ := hb.value ((Nat.div_le_div_right hmagnitude).trans hfits)
  rw [hr.combine_divide]
  exact ⟨w, b, hw, hwb, hcut⟩

/-! ## Adding again and again -/

/-- An interval that is added to itself so many times. -/
def addToItself (session : ZoneOffset) (forced : Option SqlType) (i : Interval) :
    Nat → Except EvalError Value
  | 0 => .ok (.interval i)
  | n + 1 => do
    Operator.intervalPlusInterval.combine session forced (← addToItself session forced i n)
      (.interval i)

theorem Qualifier.join?_self (q : Qualifier) : q.join? q = some q := by
  cases q <;> rfl

/-- The partial sums lie between zero and the last one, so that they fit where it does. -/
theorem addToItself_eq_ok_iff {i : Interval} (hi : i.Valid) (n : Nat) :
    addToItself session forced i n = .ok v ↔
      v.IsInterval i.qualifier (i.absolute * (n + 1 : Nat)) := by
  induction n generalizing v with
  | zero =>
      rw [Nat.zero_add, Int.natCast_one, Int.mul_one]
      constructor
      · rintro ⟨⟩
        exact hi.isInterval
      · intro hv
        rw [hv.unique hi.isInterval]
        rfl
  | succ n ih =>
      have hsum : i.absolute * (n + 1 + 1 : Nat) = i.absolute * (n + 1 : Nat) + i.absolute := by
        rw [Int.natCast_succ (n + 1), Int.mul_add, Int.mul_one]
      have hjoin := i.qualifier.join?_self
      rw [addToItself, bind_eq_ok, hsum]
      constructor
      · rintro ⟨w, hw, hv⟩
        exact (combine_plus_eq_ok_iff (ih.mp hw) hi.isInterval hjoin).mp hv
      · intro hv
        have hle : (i.absolute * (n + 1 : Nat)).natAbs ≤
            (i.absolute * (n + 1 : Nat) + i.absolute).natAbs := by
          rw [← hsum, Int.natAbs_mul, Int.natAbs_mul]
          exact Nat.mul_le_mul_left _ (Nat.le_succ _)
        obtain ⟨w, hw⟩ := hv.of_le (Int.dvd_mul_of_dvd_left hi.trailingUnit_dvd) hle
        exact ⟨w, ih.mpr hw, (combine_plus_eq_ok_iff hw hi.isInterval hjoin).mpr hv⟩

/-! ## Multiplying and dividing -/

/-- Division takes a whole multiple back. -/
theorem combine_divide_of_multiply (hv : v.IsInterval q a) (hr : r.IsNumber n) (hn : n ≠ 0)
    (hw : Operator.intervalMultiplyNumeric.combine session forced v r = .ok w) :
    Operator.intervalDivideNumeric.combine session forced w r = .ok v := by
  have hmultiple := (combine_multiply_eq_ok_iff hv hr).mp hw
  obtain ⟨u, b, hu, hub, hcut⟩ := exists_combine_divide session forced hmultiple hr hn
  rw [Int.cast_mul, mul_div_cancel_right₀ _ (Int.cast_ne_zero.mpr hn)] at hcut
  obtain rfl := Int.cast_injective (hcut.unique (.of_dvd hv.trailingUnit_dvd))
  rw [hu, hub.unique hv]

/-- However often a fraction is cut off on the way, it is the fraction by the product. -/
theorem exists_combine_divide_twice {m : Int} {s t : Value} (hv : v.IsInterval q a)
    (hr : r.IsNumber n) (hs : s.IsNumber m) (ht : t.IsNumber (n * m : Int)) (hn : n ≠ 0)
    (hm : m ≠ 0) :
    ∃ u w, Operator.intervalDivideNumeric.combine session forced v r = .ok u ∧
      Operator.intervalDivideNumeric.combine session forced u s = .ok w ∧
      Operator.intervalDivideNumeric.combine session forced v t = .ok w := by
  obtain ⟨u, b, hu, hub, hcut⟩ := exists_combine_divide session forced hv hr hn
  obtain ⟨w, c, hw, hwc, hcut'⟩ := exists_combine_divide session forced hub hs hm
  obtain ⟨x, d, hx, hxd, honce⟩ :=
    exists_combine_divide session forced hv ht (Int.mul_ne_zero hn hm)
  rw [Int.cast_mul, ← div_div] at honce
  obtain rfl := Int.cast_injective (honce.unique (hcut.div_intCast hm hcut'))
  obtain rfl := hxd.unique hwc
  exact ⟨u, x, hu, hw, hx⟩

/-- A whole multiple is a repeated sum: there is one just where the other is, and it is the same interval.
Division takes it back. Multiples of a sum are sums of multiples, as far as all of them fit, and a fraction
of a fraction is the fraction by the product. -/
theorem whole_multiples {i j : Interval} (hi : i.Valid) (hj : j.Valid)
    (hfamily : i.qualifier.isYearMonth = j.qualifier.isYearMonth) (hr : r.IsNumber n) :
    let plus := Operator.intervalPlusInterval.combine session forced
    let multiply := Operator.intervalMultiplyNumeric.combine session forced
    let divide := Operator.intervalDivideNumeric.combine session forced
    (1 ≤ n → ∀ v, multiply (.interval i) r = .ok v ↔
        addToItself session forced i (n - 1).toNat = .ok v) ∧
      (n ≠ 0 → ∀ v, multiply (.interval i) r = .ok v → divide v r = .ok (.interval i)) ∧
      (∀ v w, (do multiply (← plus (.interval i) (.interval j)) r) = .ok v →
        (do plus (← multiply (.interval i) r) (← multiply (.interval j) r)) = .ok w → v = w) ∧
      ∀ (m : Int) (s t : Value), s.IsNumber m → t.IsNumber (n * m : Int) → n ≠ 0 → m ≠ 0 →
        ∃ v, (do divide (← divide (.interval i) r) s) = .ok v ∧ divide (.interval i) t = .ok v := by
  intro plus multiply divide
  refine ⟨fun hn v => ?_, fun hn v => combine_divide_of_multiply hi.isInterval hr hn,
    fun v w hv hw => ?_, fun m s t hs ht hn hm => ?_⟩
  · have hcount : ((n - 1).toNat + 1 : Nat) = n := by omega
    rw [addToItself_eq_ok_iff hi, hcount]
    exact combine_multiply_eq_ok_iff hi.isInterval hr
  · obtain ⟨q, hq⟩ := Qualifier.exists_join? hfamily
    obtain ⟨s, hs, hv⟩ := bind_eq_ok.mp hv
    obtain ⟨x, hx, hw⟩ := bind_eq_ok.mp hw
    obtain ⟨y, hy, hw⟩ := bind_eq_ok.mp hw
    have hsum := (combine_plus_eq_ok_iff hi.isInterval hj.isInterval hq).mp hs
    have hleft := (combine_multiply_eq_ok_iff hsum hr).mp hv
    have hright := (combine_plus_eq_ok_iff ((combine_multiply_eq_ok_iff hi.isInterval hr).mp hx)
      ((combine_multiply_eq_ok_iff hj.isInterval hr).mp hy) hq).mp hw
    rw [← Int.add_mul] at hright
    exact hleft.unique hright
  · obtain ⟨u, v, hu, huv, hv⟩ := exists_combine_divide_twice hi.isInterval hr hs ht hn hm
    exact ⟨v, bind_eq_ok.mpr ⟨u, hu, huv⟩, hv⟩

/-- Twenty-nine hours backwards, three times. A third of them is cut off to nine hours, and minus a half
of those to four: what a division by minus six leaves as well. -/
theorem whole_multiples_backwards :
    let i : Interval := ⟨.dayToHour, true, 1, 5⟩
    let j : Interval := ⟨.minute, false, 90, 0⟩
    let k : Interval := ⟨.dayToHour, true, 3, 15⟩
    let r : Value := .integer 3
    let plus := Operator.intervalPlusInterval.combine 0 none
    let multiply := Operator.intervalMultiplyNumeric.combine 0 none
    let divide := Operator.intervalDivideNumeric.combine 0 none
    i.Valid ∧ j.Valid ∧ multiply (.interval i) r = .ok (.interval k) ∧
      addToItself 0 none i 2 = .ok (.interval k) ∧ divide (.interval k) r = .ok (.interval i) ∧
      (∀ v w, (do multiply (← plus (.interval i) (.interval j)) r) = .ok v →
        (do plus (← multiply (.interval i) r) (← multiply (.interval j) r)) = .ok w → v = w) ∧
      ∃ v, (do divide (← divide (.interval i) r) (.bigInt (-2))) = .ok v ∧
        divide (.interval i) (.bigInt (-6)) = .ok v := by
  intro i j k r plus multiply divide
  have hi : i.Valid := by decide
  have hj : j.Valid := by decide
  have hr : r.IsNumber (3 : Int) := .integer 3
  have hhalf : (Value.bigInt (-2)).IsNumber (-2 : Int) := .bigInt (-2)
  have hsixth : (Value.bigInt (-6)).IsNumber (3 * -2 : Int) := .bigInt (-6)
  obtain ⟨hsum, hundo, hadd, hfraction⟩ := @whole_multiples 0 none r 3 i j hi hj rfl hr
  have hmultiply : multiply (.interval i) r = .ok (.interval k) := eq_ok_of_toOption (by decide +kernel)
  exact ⟨hi, hj, hmultiply, (hsum (by decide) _).mp hmultiply, hundo (by decide) _ hmultiply, hadd,
    hfraction (-2) _ _ hhalf hsixth (by decide) (by decide)⟩

end SqlInterval
