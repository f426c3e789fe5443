import SqlInterval.Operator.Basic
import SqlInterval.Proofs.Numeral
import SqlInterval.Proofs.Qualifier
import SqlInterval.TypeName

/-!
# What the text of a qualifier shows

The fields of an interval type are read back from its text, and so is the scale if there are seconds. Where
the text ends is told from what can follow an operand.
-/

namespace SqlInterval

/-- What can follow an operand: nothing, a closing bracket, or an operator after a blank. -/
inductive Ends : List Char → Prop where
  | nil : Ends []
  | bracket (cs : List Char) : Ends (')' :: cs)
  | operator (o : Operator) (cs : List Char) : Ends (' ' :: o.token :: cs)

theorem Ends.stops {p : Char → Bool} {r : List Char} (h : Ends r) (hbracket : p ')' = false)
    (hblank : p ' ' = false) : Stops p r := by
  cases h with
  | nil => trivial
  | bracket cs => exact hbracket
  | operator o cs => exact hblank

theorem Ends.ne_letter {r cs : List Char} {c : Char} (h : Ends r) (hc : c.isUpper) :
    r ≠ ' ' :: c :: cs := by
  rintro rfl
  cases h with
  | operator o => cases o <;> exact absurd hc (by decide)

theorem Field.keyword_letters (f : Field) : ∀ c ∈ f.keyword.toList, c.isUpper := by
  have hall : f.keyword.toList.all Char.isUpper = true := by cases f <;> rfl
  exact List.all_eq_true.mp hall

theorem Field.keyword_ne_nil (f : Field) : f.keyword.toList ≠ [] := by
  cases f <;> decide

theorem Field.keyword_inj {f g : Field} (h : f.keyword.toList = g.keyword.toList) : f = g := by
  cases f <;> cases g <;> first | rfl | exact absurd h (by decide)

/-! ## Numbers in brackets -/

/-- The number in brackets if it is given. -/
def numberText (o : Option Int) : List Char := (o.map (bracket ∘ Numeral.int)).getD []

/-- The numbers of a type of seconds alone, in one pair of brackets. -/
def secondsText (precision scale : Option Int) : List Char :=
  match precision, scale with
  | none, none => []
  | p, none => bracket (Numeral.int (p.getD Qualifier.defaultPrecision))
  | p, some s =>
    bracket (Numeral.int (p.getD Qualifier.defaultPrecision) ++ ", ".toList ++ Numeral.int s)

/-- The text does not begin with an opening bracket. -/
abbrev NoBracket (r : List Char) : Prop := Stops (· = '(') r

section Brackets

variable {r t cs : List Char} {a b p p' s s' : Option Int}

theorem stops_close : Stops Char.isDigit (')' :: r) := rfl

theorem NoBracket.ne (h : NoBracket r) : r ≠ '(' :: cs := by
  rintro rfl
  cases h

theorem bracket_append (cs r : List Char) : bracket cs ++ r = '(' :: (cs ++ ')' :: r) := by
  simp only [bracket, List.cons_append, List.append_assoc, List.nil_append]

theorem numberText_append_inj (hr : NoBracket r) (ht : NoBracket t)
    (h : numberText a ++ r = numberText b ++ t) : a = b ∧ r = t := by
  have hnone (r : List Char) : numberText none ++ r = r := rfl
  have hsome (z : Int) (r : List Char) :
      numberText (some z) ++ r = '(' :: (Numeral.int z ++ ')' :: r) := bracket_append _ r
  cases a with
  | none =>
      cases b with
      | none => exact ⟨rfl, h⟩
      | some z =>
          rw [hnone, hsome] at h
          exact absurd h hr.ne
  | some y =>
      cases b with
      | none =>
          rw [hnone, hsome] at h
          exact absurd h.symm ht.ne
      | some z =>
          rw [hsome, hsome] at h
          obtain ⟨rfl, hrest⟩ := Numeral.int_append_inj stops_close stops_close (List.cons.inj h).2
          exact ⟨rfl, (List.cons.inj hrest).2⟩

/-- The text of the scale and the closing bracket, after the precision. -/
def scaleText : Option Int → List Char
  | none => [')']
  | some z => ',' :: ' ' :: (Numeral.int z ++ [')'])

theorem scaleText_append_inj (h : scaleText s ++ r = scaleText s' ++ t) : s = s' ∧ r = t := by
  cases s with
  | none =>
      cases s' with
      | none => exact ⟨rfl, (List.cons.inj h).2⟩
      | some z => exact absurd (List.cons.inj h).1 (by decide)
  | some y =>
      cases s' with
      | none => exact absurd (List.cons.inj h).1 (by decide)
      | some z =>
          simp only [scaleText, List.cons_append, List.append_assoc, List.nil_append] at h
          obtain ⟨rfl, hrest⟩ :=
            Numeral.int_append_inj stops_close stops_close (List.cons.inj (List.cons.inj h).2).2
          exact ⟨rfl, (List.cons.inj hrest).2⟩

/-- Nothing, or a precision and what the scale shows. -/
theorem secondsText_cases (p s : Option Int) :
    (secondsText p s = [] ∧ s = none) ∨
      ∃ z, secondsText p s = '(' :: (Numeral.int z ++ scaleText s) := by
  cases s with
  | none =>
      cases p with
      | none => exact .inl ⟨rfl, rfl⟩
      | some z => exact .inr ⟨z, rfl⟩
  | some y =>
      refine .inr ⟨p.getD Qualifier.defaultPrecision, ?_⟩
      simp only [secondsText, bracket, scaleText, List.append_assoc, List.cons_append]
      rfl

theorem secondsText_append_inj (hr : NoBracket r) (ht : NoBracket t)
    (h : secondsText p s ++ r = secondsText p' s' ++ t) : s = s' ∧ r = t := by
  have hstops (o : Option Int) (r : List Char) : Stops Char.isDigit (scaleText o ++ r) := by
    cases o <;> rfl
  obtain ⟨hnil, rfl⟩ | ⟨y, hy⟩ := secondsText_cases p s
  · rw [hnil] at h
    obtain ⟨hnil', rfl⟩ | ⟨z, hz⟩ := secondsText_cases p' s'
    · rw [hnil'] at h
      exact ⟨rfl, h⟩
    · rw [hz] at h
      exact absurd h hr.ne
  · rw [hy] at h
    obtain ⟨hnil', rfl⟩ | ⟨z, hz⟩ := secondsText_cases p' s'
    · rw [hnil'] at h
      exact absurd h.symm ht.ne
    · rw [hz, List.cons_append, List.cons_append, List.append_assoc, List.append_assoc] at h
      exact scaleText_append_inj
        (Numeral.int_append_inj (hstops s r) (hstops s' t) (List.cons.inj h).2).2

end Brackets

/-! ## Fields -/

namespace Qualifier

variable {q q' : Qualifier} {r t : List Char} {p p' s s' : Option Int}

/-- The end field, with the scale if that is seconds. -/
def endText (q : Qualifier) (scale : Option Int) : List Char :=
  q.endField.keyword.toList ++ if q.hasSeconds then numberText scale else []

/-- The end field of a range. -/
def rangeText (q : Qualifier) (scale : Option Int) : List Char :=
  if q.hasRange then ' ' :: 'T' :: 'O' :: ' ' :: q.endText scale else []

/-- The text after the start field. -/
def afterStart (q : Qualifier) (precision scale : Option Int) : List Char :=
  if q = second then secondsText precision scale
  else numberText precision ++ q.rangeText scale

theorem fieldsText_eq (q : Qualifier) (p s : Option Int) :
    q.fieldsText p s = q.startField.keyword.toList ++ q.afterStart p s := by
  have hto : " TO ".toList = [' ', 'T', 'O', ' '] := rfl
  unfold fieldsText afterStart rangeText endText
  dsimp only
  split
  · cases p <;> cases s <;> simp [secondsText]
  · split
    · simp only [numberText, hto, List.append_assoc, List.cons_append, List.nil_append]
    · simp only [numberText, List.append_nil]

theorem eq_of_no_range (hstart : q.startField = q'.startField) (hq : q.hasRange = false)
    (hq' : q'.hasRange = false) : q = q' := by
  simp only [hasRange, bne_eq_false_iff_eq] at hq hq'
  exact eq_of_fields hstart (by rw [← hq, ← hq', hstart])

theorem endText_append_inj (hr : Ends r) (ht : Ends t)
    (h : q.endText s ++ r = q'.endText s' ++ t) :
    q.endField = q'.endField ∧ (q.hasSeconds → s = s') ∧ r = t := by
  have hstops {q : Qualifier} {s : Option Int} {r : List Char} (hr : Ends r) :
      Stops Char.isUpper ((if q.hasSeconds then numberText s else []) ++ r) := by
    split
    · cases s with
      | none => exact hr.stops rfl rfl
      | some z => rfl
    · exact hr.stops rfl rfl
  rw [endText, endText, List.append_assoc, List.append_assoc] at h
  obtain ⟨hkeyword, h⟩ := (hstops hr).append_inj (hstops ht) q.endField.keyword_letters
    q'.endField.keyword_letters h
  have hend := Field.keyword_inj hkeyword
  have hseconds : q.hasSeconds = q'.hasSeconds := congrArg (· == Field.second) hend
  rw [← hseconds] at h
  refine ⟨hend, ?_⟩
  by_cases hs : q.hasSeconds
  · rw [if_pos hs, if_pos hs] at h
    obtain ⟨hscale, hrest⟩ := numberText_append_inj (hr.stops rfl rfl) (ht.stops rfl rfl) h
    exact ⟨fun _ => hscale, hrest⟩
  · rw [if_neg hs, if_neg hs] at h
    exact ⟨fun h => absurd h hs, h⟩

theorem rangeText_append_inj (hstart : q.startField = q'.startField) (hq : q ≠ second) (hr : Ends r)
    (ht : Ends t) (h : q.rangeText s ++ r = q'.rangeText s' ++ t) :
    q = q' ∧ (q.hasSeconds → s = s') ∧ r = t := by
  have hseconds : q.hasRange = false → q.hasSeconds = false := by
    revert hq
    cases q <;> decide
  unfold rangeText at h
  split at h <;> split at h
  · have htail := (List.append_right_inj [' ', 'T', 'O', ' ']).mp h
    obtain ⟨hend, hrest⟩ := endText_append_inj hr ht htail
    exact ⟨eq_of_fields hstart hend, hrest⟩
  · exact absurd h.symm (ht.ne_letter rfl)
  · exact absurd h (hr.ne_letter rfl)
  · rename_i hrange hrange'
    have hrange := Bool.eq_false_iff.mpr hrange
    exact ⟨eq_of_no_range hstart hrange (Bool.eq_false_iff.mpr hrange'),
      fun hs => absurd hs (Bool.eq_false_iff.mp (hseconds hrange)), h⟩

theorem stops_rangeText {p : Char → Bool} (hr : Ends r) (hbracket : p ')' = false)
    (hblank : p ' ' = false) : Stops p (q.rangeText s ++ r) := by
  unfold rangeText
  split
  · exact hblank
  · exact hr.stops hbracket hblank

theorem afterStart_append_inj (hstart : q.startField = q'.startField) (hr : Ends r) (ht : Ends t)
    (h : q.afterStart p s ++ r = q'.afterStart p' s' ++ t) :
    q = q' ∧ (q.hasSeconds → s = s') ∧ r = t := by
  have hsecond : q = second ↔ q' = second := by
    revert hstart
    cases q <;> cases q' <;> decide
  unfold afterStart at h
  split at h
  · rename_i hq
    rw [if_pos (hsecond.mp hq)] at h
    obtain ⟨hs, hrest⟩ := secondsText_append_inj (hr.stops rfl rfl) (ht.stops rfl rfl) h
    exact ⟨hq.trans (hsecond.mp hq).symm, fun _ => hs, hrest⟩
  · rename_i hq
    rw [if_neg (mt hsecond.mpr hq), List.append_assoc, List.append_assoc] at h
    exact rangeText_append_inj hstart hq hr ht
      (numberText_append_inj (stops_rangeText hr rfl rfl) (stops_rangeText ht rfl rfl) h).2

theorem stops_afterStart (hr : Ends r) : Stops Char.isUpper (q.afterStart p s ++ r) := by
  unfold afterStart
  split
  · obtain ⟨hnil, -⟩ | ⟨z, hz⟩ := secondsText_cases p s
    · rw [hnil]
      exact hr.stops rfl rfl
    · rw [hz]
      rfl
  · cases p with
    | none => exact stops_rangeText hr rfl rfl
    | some z => rfl

/-- The text of the fields gives the qualifier, and the scale where there are seconds. -/
theorem fieldsText_append_inj (hr : Ends r) (ht : Ends t)
    (h : q.fieldsText p s ++ r = q'.fieldsText p' s' ++ t) :
    q = q' ∧ (q.hasSeconds → s = s') ∧ r = t := by
  rw [fieldsText_eq, fieldsText_eq, List.append_assoc, List.append_assoc] at h
  obtain ⟨hkeyword, h⟩ := (stops_afterStart hr).append_inj (stops_afterStart ht)
    q.startField.keyword_letters q'.startField.keyword_letters h
  exact afterStart_append_inj (Field.keyword_inj hkeyword) hr ht h

end Qualifier

end SqlInterval
