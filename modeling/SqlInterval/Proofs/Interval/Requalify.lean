import SqlInterval.Proofs.Interval.Convert
import SqlInterval.Proofs.Outcome
import SqlInterval.Proofs.Qualifier

/-!
# Conversions between qualifiers

Within a family the finer unit divides the coarser one. What is cut off at the finer unit is therefore cut
off at the coarser one as well, and does not reach the leading field of either: a conversion to finer fields
loses nothing, and one to coarser fields is the same whether it is made at once or in steps.
-/

namespace SqlInterval

namespace Interval

variable {i j : Interval} {p q : Qualifier}

/-! ## One conversion -/

theorem requalify_family (h : i.requalify q = .ok j) :
    q.isYearMonth = i.qualifier.isYearMonth := by
  refine Decidable.byContradiction fun hfamily => ?_
  cases (requalify_of_other_family hfamily).symm.trans h

theorem Valid.requalify_ok (h : i.Valid) (hj : i.requalify q = .ok j) :
    j.Valid ∧ j.qualifier = q ∧ j.absolute = i.absolute.tdiv q.trailingUnit * q.trailingUnit := by
  rw [h.requalify_eq (requalify_family hj).symm] at hj
  obtain ⟨hq, hv, ha⟩ := ofAbsolute_ok hj
  exact ⟨hv, hq, ha⟩

/-- A conversion fails for want of room in the leading field, and for nothing else. -/
theorem Valid.requalify_eq_error (h : i.Valid) (hq : q.isYearMonth = i.qualifier.isYearMonth)
    (e : DataError) : i.requalify q = .error e ↔
      maxLeading < i.absolute.natAbs / q.leadingUnit ∧
        e = .number (i.absolute.tdiv q.leadingUnit) := by
  rw [h.requalify_eq hq.symm]
  by_cases hmax : i.absolute.natAbs / q.leadingUnit ≤ maxLeading
  · obtain ⟨j, hj⟩ := ofAbsolute_succeeds hmax
    rw [hj]
    exact ⟨fun h => (nomatch h), fun h => absurd hmax (Nat.not_le.mpr h.1)⟩
  · have hmax := Nat.lt_of_not_le hmax
    rw [ofAbsolute_fails hmax, Except.error.injEq]
    exact ⟨fun h => ⟨hmax, h.symm⟩, fun h => h.2.symm⟩

/-! ## There and back, and further -/

/-- Nothing is cut off from an interval whose last field the qualifier reaches. -/
theorem Valid.requalify_finer (h : i.Valid) (hj : i.requalify q = .ok j)
    (hend : i.qualifier.endField.rank ≤ q.endField.rank) : j.absolute = i.absolute := by
  have hunit := Qualifier.trailingUnit_dvd (requalify_family hj).symm hend
  rw [(h.requalify_ok hj).2.2]
  exact Int.tdiv_mul_cancel (Int.dvd_trans (Int.natCast_dvd_natCast.mpr hunit) h.trailingUnit_dvd)

theorem Valid.requalify_back (h : i.Valid) (hj : i.requalify q = .ok j)
    (hend : i.qualifier.endField.rank ≤ q.endField.rank) :
    j.requalify i.qualifier = .ok i := by
  obtain ⟨hjv, hjq, -⟩ := h.requalify_ok hj
  rw [hjv.requalify_eq (hjq ▸ requalify_family hj), h.requalify_finer hj hend]
  exact ofAbsolute_absolute h

theorem Valid.requalify_requalify (h : i.Valid) (hj : i.requalify p = .ok j)
    (hq : q.isYearMonth = i.qualifier.isYearMonth) (hend : q.endField.rank ≤ p.endField.rank) :
    j.requalify q = i.requalify q := by
  obtain ⟨hjv, hjq, hja⟩ := h.requalify_ok hj
  have hp := requalify_family hj
  have hunit := Qualifier.trailingUnit_dvd (hq.trans hp.symm) hend
  calc
    j.requalify q = ofAbsolute q j.absolute :=
      hjv.requalify_eq (by rw [hjq, hp, hq])
    _ = ofAbsolute q i.absolute := by
      rw [hja, ofAbsolute_tdiv_mul p.trailingUnit_pos hunit]
    _ = i.requalify q := (h.requalify_eq hq.symm).symm

/-- Within its family an interval can be converted just where the leading field has room. To fields that are
at least as fine it keeps its amount, and comes back as it was; to coarser ones it is the same whether it is
made at once or on the way through others. No conversion leads out of the family. -/
theorem conversions_compose (h : i.Valid) :
    (∀ q : Qualifier, q.isYearMonth = i.qualifier.isYearMonth →
      (∀ e, i.requalify q = .error e ↔
        maxLeading < i.absolute.natAbs / q.leadingUnit ∧
          e = .number (i.absolute.tdiv q.leadingUnit)) ∧
      (i.qualifier.endField.rank ≤ q.endField.rank → ∀ j, i.requalify q = .ok j →
        j.absolute = i.absolute ∧ j.requalify i.qualifier = .ok i)) ∧
    (∀ p q : Qualifier, q.endField.rank ≤ p.endField.rank → ∀ j, i.requalify p = .ok j →
      Agree DataError.code id (j.requalify q) (i.requalify q) ∧
        (q.isYearMonth = i.qualifier.isYearMonth → j.requalify q = i.requalify q)) ∧
    ∀ q : Qualifier, q.isYearMonth ≠ i.qualifier.isYearMonth →
      i.requalify q =
        .error (.conversion ("INTERVAL " ++ i.qualifier.text) ("INTERVAL " ++ q.text)) := by
  refine ⟨fun q hq => ⟨h.requalify_eq_error hq, fun hend j hj => ?_⟩, fun p q hend j hj => ?_,
    fun q hq => requalify_of_other_family hq⟩
  · exact ⟨h.requalify_finer hj hend, h.requalify_back hj hend⟩
  · by_cases hq : q.isYearMonth = i.qualifier.isYearMonth
    · have hsame := h.requalify_requalify hj hq hend
      exact ⟨hsame ▸ .refl _, fun _ => hsame⟩
    -- Out of the family both fail, each with the qualifier that it starts from.
    · have hj' : q.isYearMonth ≠ j.qualifier.isYearMonth := by
        rwa [(h.requalify_ok hj).2.1, requalify_family hj]
      rw [requalify_of_other_family hq, requalify_of_other_family hj']
      exact ⟨.error rfl, fun hsame => absurd hsame hq⟩

/-- Twenty-nine hours and a half backwards, as seconds and back, and as days, either at once or by way of the
hours. The longest interval of days has too many hours. -/
theorem conversions_compose_backwards :
    let i : Interval := ⟨.hourToMinute, true, 29, 30⟩
    let seconds : Interval := ⟨.second, true, 106200, 0⟩
    let hours : Interval := ⟨.dayToHour, true, 1, 5⟩
    let ages : Interval := ⟨.day, false, 999999999999999999, 0⟩
    (i.Valid ∧ i.requalify .second = .ok seconds ∧ seconds.absolute = i.absolute ∧
        seconds.requalify .hourToMinute = .ok i) ∧
      (i.requalify .dayToHour = .ok hours ∧ hours.requalify .day = i.requalify .day) ∧
      (ages.Valid ∧ ages.requalify .hour = .error (.number 23999999999999999976)) ∧
      i.requalify .year = .error (.conversion "INTERVAL HOUR TO MINUTE" "INTERVAL YEAR") := by
  intro i seconds hours ages
  have hi : i.Valid := by decide
  have hages : ages.Valid := by decide
  obtain ⟨hsame, hsteps, hother⟩ := conversions_compose hi
  have hseconds : i.requalify .second = .ok seconds := eq_ok_of_toOption (by decide +kernel)
  have hhours : i.requalify .dayToHour = .ok hours := eq_ok_of_toOption (by decide +kernel)
  obtain ⟨hamount, hback⟩ := (hsame .second rfl).2 (by decide) seconds hseconds
  have hroom := (((conversions_compose hages).1 .hour rfl).1 (.number 23999999999999999976)).mpr
    ⟨by decide, congrArg DataError.number (by decide)⟩
  exact ⟨⟨hi, hseconds, hamount, hback⟩,
    ⟨hhours, (hsteps .dayToHour .day (by decide) hours hhours).2 rfl⟩, ⟨hages, hroom⟩,
    (hother .year (by decide)).trans (congrArg Except.error (by decide +kernel))⟩

end Interval

end SqlInterval
