import SqlInterval.Qualifier

/-!
# Spans of fields

The fields are a chain from the coarsest to the finest, and a qualifier is the stretch of it from its
start field to its end field, within one family. The join of two qualifiers is the least stretch around
both, and what either of them counts is counted by the join without a rest.
-/

namespace SqlInterval

/-! ## Fields -/

namespace Field

theorem rank_injective {a b : Field} (h : a.rank = b.rank) : a = b := by
  revert h
  cases a <;> cases b <;> decide

theorem eq_second {a : Field} (h : second.rank ≤ a.rank) : a = second := by
  revert h
  cases a <;> decide

theorem rank_coarser (a b : Field) : (a.coarser b).rank = min a.rank b.rank := by
  unfold coarser
  split <;> omega

theorem rank_finer (a b : Field) : (a.finer b).rank = max a.rank b.rank := by
  unfold finer
  split <;> omega

theorem coarser_comm (a b : Field) : a.coarser b = b.coarser a :=
  rank_injective (by rw [rank_coarser, rank_coarser, Nat.min_comm])

theorem finer_comm (a b : Field) : a.finer b = b.finer a :=
  rank_injective (by rw [rank_finer, rank_finer, Nat.max_comm])

theorem coarser_eq (a b : Field) : a.coarser b = a ∨ a.coarser b = b := by
  unfold coarser
  split
  · exact .inl rfl
  · exact .inr rfl

theorem finer_eq (a b : Field) : a.finer b = a ∨ a.finer b = b := by
  unfold finer
  split
  · exact .inr rfl
  · exact .inl rfl

theorem unit_pos (a : Field) : 0 < a.unit := by cases a <;> decide

/-- Years and months are the two coarsest fields. Within a family the finer unit divides the coarser
one. -/
theorem unit_dvd {a b : Field} (hfamily : a.rank ≤ 1 ↔ b.rank ≤ 1) (h : a.rank ≤ b.rank) :
    b.unit ∣ a.unit := by
  revert hfamily h
  cases a <;> cases b <;> decide

end Field

namespace Qualifier

variable {a b p q : Qualifier}

/-! ## Qualifiers and their two fields -/

theorem isYearMonth_iff_startField (q : Qualifier) : q.isYearMonth ↔ q.startField.rank ≤ 1 := by
  cases q <;> decide

theorem isYearMonth_iff_endField (q : Qualifier) : q.isYearMonth ↔ q.endField.rank ≤ 1 := by
  cases q <;> decide

theorem family_eq_iff_startField :
    p.isYearMonth = q.isYearMonth ↔ (p.startField.rank ≤ 1 ↔ q.startField.rank ≤ 1) := by
  rw [Bool.eq_iff_iff, isYearMonth_iff_startField, isYearMonth_iff_startField]

theorem family_eq_iff_endField :
    p.isYearMonth = q.isYearMonth ↔ (p.endField.rank ≤ 1 ↔ q.endField.rank ≤ 1) := by
  rw [Bool.eq_iff_iff, isYearMonth_iff_endField, isYearMonth_iff_endField]

theorem startField_le_endField (q : Qualifier) : q.startField.rank ≤ q.endField.rank := by
  cases q <;> decide

theorem eq_of_fields (hs : p.startField = q.startField) (he : p.endField = q.endField) : p = q := by
  have hp := ofFields?_fields p
  rw [hs, he, ofFields?_fields q] at hp
  exact (Option.some.inj hp).symm

theorem ofFields?_eq_some {s e : Field} (h : ofFields? s e = some q) :
    q.startField = s ∧ q.endField = e := by
  unfold ofFields? at h
  split at h <;> cases h <;> exact ⟨rfl, rfl⟩

theorem isSome_ofFields? {s e : Field} (hfamily : s.rank ≤ 1 ↔ e.rank ≤ 1)
    (h : s.rank ≤ e.rank) : (ofFields? s e).isSome := by
  revert hfamily h
  cases s <;> cases e <;> decide

/-! ## Units -/

theorem trailingUnit_dvd (hfamily : p.isYearMonth = q.isYearMonth)
    (h : p.endField.rank ≤ q.endField.rank) : q.trailingUnit ∣ p.trailingUnit := by
  unfold trailingUnit
  by_cases hq : q.hasSeconds
  · rw [if_pos hq]
    exact Nat.one_dvd _
  · have hp : ¬ p.hasSeconds := by
      intro hp
      rw [eq_of_beq hp] at h
      exact hq (beq_iff_eq.mpr (Field.eq_second h))
    rw [if_neg hq, if_neg hp]
    exact Field.unit_dvd (family_eq_iff_endField.mp hfamily) h

theorem leadingUnit_le_of_rank (hfamily : p.isYearMonth = q.isYearMonth)
    (h : p.startField.rank ≤ q.startField.rank) : q.leadingUnit ≤ p.leadingUnit := by
  exact Nat.le_of_dvd (Field.unit_pos _)
    (Field.unit_dvd (family_eq_iff_startField.mp hfamily) h)

/-! ## Joins -/

theorem join?_comm (a b : Qualifier) : a.join? b = b.join? a := by
  simp only [join?, eq_comm (a := a.isYearMonth), Field.coarser_comm a.startField,
    Field.finer_comm a.endField]

theorem join?_eq_some (h : a.join? b = some q) :
    a.isYearMonth = b.isYearMonth ∧ q.startField = a.startField.coarser b.startField ∧
      q.endField = a.endField.finer b.endField := by
  unfold join? at h
  split at h
  · rename_i hfamily
    exact ⟨hfamily, ofFields?_eq_some h⟩
  · cases h

theorem exists_join? (h : a.isYearMonth = b.isYearMonth) : ∃ q, a.join? b = some q := by
  have hstart := family_eq_iff_startField.mp h
  have hend := family_eq_iff_endField.mp h
  have ha : a.startField.rank ≤ 1 ↔ a.endField.rank ≤ 1 := by
    rw [← isYearMonth_iff_startField, ← isYearMonth_iff_endField]
  have hle := startField_le_endField a
  rw [join?, if_pos h]
  apply Option.isSome_iff_exists.mp
  apply isSome_ofFields? <;> rw [Field.rank_coarser, Field.rank_finer] <;> omega

theorem join?_family (h : a.join? b = some q) :
    a.isYearMonth = q.isYearMonth ∧ b.isYearMonth = q.isYearMonth := by
  obtain ⟨hfamily, hstart, -⟩ := join?_eq_some h
  have hiff := family_eq_iff_startField.mp hfamily
  have hrank : q.startField.rank = min a.startField.rank b.startField.rank := by
    rw [hstart, Field.rank_coarser]
  have ha : a.isYearMonth = q.isYearMonth := family_eq_iff_startField.mpr (by omega)
  exact ⟨ha, hfamily.symm.trans ha⟩

theorem join?_trailingUnit_dvd (h : a.join? b = some q) :
    q.trailingUnit ∣ a.trailingUnit ∧ q.trailingUnit ∣ b.trailingUnit := by
  obtain ⟨-, -, hend⟩ := join?_eq_some h
  obtain ⟨ha, hb⟩ := join?_family h
  have hrank : q.endField.rank = max a.endField.rank b.endField.rank := by
    rw [hend, Field.rank_finer]
  exact ⟨trailingUnit_dvd ha (by omega), trailingUnit_dvd hb (by omega)⟩

theorem leadingUnit_le_join? (h : a.join? b = some q) : a.leadingUnit ≤ q.leadingUnit := by
  obtain ⟨-, hstart, -⟩ := join?_eq_some h
  have hrank : q.startField.rank = min a.startField.rank b.startField.rank := by
    rw [hstart, Field.rank_coarser]
  exact leadingUnit_le_of_rank (join?_family h).1.symm (by omega)

/-! ## Spans of several qualifiers -/

/-- The qualifier reaches from the earliest start field to the latest end field of the given ones. -/
structure Spans (q : Qualifier) (ps : List Qualifier) : Prop where
  start_le : ∀ p ∈ ps, q.startField.rank ≤ p.startField.rank
  start_mem : ∃ p ∈ ps, p.startField = q.startField
  le_end : ∀ p ∈ ps, p.endField.rank ≤ q.endField.rank
  end_mem : ∃ p ∈ ps, p.endField = q.endField

namespace Spans

variable {ps rs : List Qualifier}

theorem singleton (q : Qualifier) : q.Spans [q] := by
  constructor <;> simp

theorem perm (h : q.Spans ps) (hp : ps.Perm rs) : q.Spans rs where
  start_le p hm := h.start_le p (hp.mem_iff.mpr hm)
  start_mem := h.start_mem.imp fun _ hm => ⟨hp.mem_iff.mp hm.1, hm.2⟩
  le_end p hm := h.le_end p (hp.mem_iff.mpr hm)
  end_mem := h.end_mem.imp fun _ hm => ⟨hp.mem_iff.mp hm.1, hm.2⟩

theorem start_rank_le (hp : p.Spans ps) (hq : q.Spans ps) :
    p.startField.rank ≤ q.startField.rank := by
  obtain ⟨r, hr, heq⟩ := hq.start_mem
  rw [← heq]
  exact hp.start_le r hr

theorem end_rank_le (hp : p.Spans ps) (hq : q.Spans ps) : p.endField.rank ≤ q.endField.rank := by
  obtain ⟨r, hr, heq⟩ := hp.end_mem
  rw [← heq]
  exact hq.le_end r hr

theorem unique (hp : p.Spans ps) (hq : q.Spans ps) : p = q :=
  eq_of_fields
    (Field.rank_injective (Nat.le_antisymm (hp.start_rank_le hq) (hq.start_rank_le hp)))
    (Field.rank_injective (Nat.le_antisymm (hp.end_rank_le hq) (hq.end_rank_le hp)))

theorem join (ha : a.Spans ps) (hb : b.Spans rs) (h : a.join? b = some q) :
    q.Spans (ps ++ rs) := by
  obtain ⟨-, hstart, hend⟩ := join?_eq_some h
  have hs := Field.rank_coarser a.startField b.startField
  have he := Field.rank_finer a.endField b.endField
  rw [← hstart] at hs
  rw [← hend] at he
  constructor
  · intro p hp
    rcases List.mem_append.mp hp with hp | hp
    · have := ha.start_le p hp
      omega
    · have := hb.start_le p hp
      omega
  · rw [hstart]
    rcases Field.coarser_eq a.startField b.startField with h | h
    · obtain ⟨p, hp, heq⟩ := ha.start_mem
      exact ⟨p, List.mem_append_left _ hp, heq.trans h.symm⟩
    · obtain ⟨p, hp, heq⟩ := hb.start_mem
      exact ⟨p, List.mem_append_right _ hp, heq.trans h.symm⟩
  · intro p hp
    rcases List.mem_append.mp hp with hp | hp
    · have := ha.le_end p hp
      omega
    · have := hb.le_end p hp
      omega
  · rw [hend]
    rcases Field.finer_eq a.endField b.endField with h | h
    · obtain ⟨p, hp, heq⟩ := ha.end_mem
      exact ⟨p, List.mem_append_left _ hp, heq.trans h.symm⟩
    · obtain ⟨p, hp, heq⟩ := hb.end_mem
      exact ⟨p, List.mem_append_right _ hp, heq.trans h.symm⟩

end Spans

end Qualifier

end SqlInterval
