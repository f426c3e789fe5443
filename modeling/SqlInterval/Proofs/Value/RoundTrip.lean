import SqlInterval.Proofs.Decimal.Text
import SqlInterval.Proofs.Value.Document

/-!
# Every value through its document

All that is written for a value other than a double is read as the value that is shown: a decimal as the
same number, all else as it was, but for a leap second within a minute, which shows as the second after it.
The scale of a decimal has to fit a word of 32 bits; from there the form that is written has an exponent
that can be read.
-/

namespace SqlInterval

/-! ## Decimals -/

theorem Decimal.signChars_plain (d : Decimal) : Json.Plain d.signChars := by
  unfold signChars
  split <;> simp

theorem Decimal.pointed_plain {ds : List Char} (hds : ∀ c ∈ ds, c.isDigit) :
    Json.Plain (pointed ds) := by
  unfold pointed
  split
  · exact Json.plain_nil
  · simp [Json.plain_digits hds]

theorem Decimal.short_plain (d : Decimal) : Json.Plain d.short := by
  have hdigits := Numeral.nat_digits d.unscaled.natAbs
  have hint (z : Int) : Json.Plain (Numeral.int z) := by
    have hnat := Json.plain_digits (Numeral.nat_digits z.natAbs)
    unfold Numeral.int
    split <;> simp [hnat]
  have hfirst : Json.Plain (pointAfterFirst (Numeral.nat d.unscaled.natAbs)) := by
    generalize Numeral.nat d.unscaled.natAbs = digits at hdigits
    cases digits with
    | nil => exact Json.plain_nil
    | cons c cs =>
        obtain ⟨hc, hcs⟩ := List.forall_mem_cons.mp hdigits
        rw [pointAfterFirst_cons, Json.plain_append]
        exact ⟨Json.plain_digits (List.forall_mem_singleton.mpr hc), pointed_plain hcs⟩
  have hplain : Json.Plain d.plain := by
    obtain ⟨lead, trail, h⟩ := d.exists_plainDigits
    simp [plain, h.text, signChars_plain, Json.plain_digits h.lead_digits,
      pointed_plain h.trail_digits]
  unfold short
  dsimp only
  split
  · decide
  split
  · simp [signChars_plain, hfirst, hint]
  split
  · simp [signChars_plain, Json.plain_digits hdigits, hint]
  · exact hplain

theorem Decimal.ofJson?_short {d : Decimal} (hmin : Int32.minValue.toInt ≤ d.scale)
    (hmax : d.scale ≤ Int32.maxValue.toInt) :
    ∃ e, ofJson? (.string d.short) = some e ∧ d.same e := by
  obtain ⟨e, hread, hrat⟩ := read?_short hmin hmax
  refine ⟨e, ?_, same_iff.mpr hrat.symm⟩
  rw [ofJson?, Json.decode?_plain d.short_plain, Option.bind_some, hread]

/-! ## Dates and times -/

theorem Json.text?_bind {α : Type} {cs : List Char} (h : Plain cs) (read? : List Char → Option α) :
    (string cs).text?.bind read? = read? cs := by
  rw [text?, decode?_plain h, Option.bind_some]

theorem Date.readIso?_chars (d : Date) : readIso? d.chars = some d := by
  have hdate : Iso.date? (d.chars ++ []) = some (d, trimStart []) := Iso.date?_chars d trivial
  rw [List.append_nil] at hdate
  rw [readIso?, hdate]
  rfl

/-! ## Values -/

namespace Value

theorem ofDocument?_null : ofDocument? null.document = some null := by decide +kernel

/-- The content under the kind's name is read as a value equal to the one that is shown. -/
theorem ofContent?_content {v : Value} {content : Json} (hv : v.kind ≠ .double)
    (hscale : ∀ d, v = decimal d →
      Int32.minValue.toInt ≤ d.scale ∧ d.scale ≤ Int32.maxValue.toInt)
    (hc : v.content? = some content) :
    content.Written ∧ ∃ w, ofContent? v.label false content = some w ∧ v.shown.same w := by
  cases v with
  | null => cases hc
  | double x => exact absurd rfl hv
  | integer n =>
      obtain rfl := Option.some.inj hc
      exact ⟨Json.written_ofInt _, integer n, congrArg (Option.map integer) (Json.int32?_ofInt n),
        decide_eq_true rfl⟩
  | bigInt n =>
      obtain rfl := Option.some.inj hc
      exact ⟨Json.written_ofInt _, bigInt n, congrArg (Option.map bigInt) (Json.int64?_ofInt n),
        decide_eq_true rfl⟩
  | decimal d =>
      obtain rfl := Option.some.inj hc
      obtain ⟨hmin, hmax⟩ := hscale d rfl
      obtain ⟨e, hread, hsame⟩ := Decimal.ofJson?_short hmin hmax
      exact ⟨d.short_plain, decimal e, congrArg (Option.map decimal) hread, hsame⟩
  | date d =>
      obtain rfl := Option.some.inj hc
      have hread := (Json.text?_bind d.chars_plain _).trans d.readIso?_chars
      exact ⟨d.chars_plain, date d, congrArg (Option.map date) hread, decide_eq_true rfl⟩
  | time t =>
      obtain rfl := Option.some.inj hc
      have hread := (Json.text?_bind t.isoChars_plain _).trans t.readIso?_isoChars
      exact ⟨t.isoChars_plain, time t.shown, congrArg (Option.map time) hread, decide_eq_true rfl⟩
  | timestamp t =>
      obtain rfl := Option.some.inj hc
      have hread := (Json.text?_bind t.isoChars_plain _).trans t.readIso?_isoChars
      exact ⟨t.isoChars_plain, timestamp t.shown, congrArg (Option.map timestamp) hread,
        decide_eq_true rfl⟩
  | timeTz | timestampTz | interval =>
      obtain ⟨hwritten, hread⟩ := ofContent?_of_hasBounds rfl hc
      exact ⟨hwritten, _, hread, decide_eq_true rfl⟩

/-- A value that equals what is shown of another one equals that one just if all of it is shown. -/
theorem same_iff_leapEndsMinute {v w : Value} (h : v.shown.same w) : v.same w ↔ v.LeapEndsMinute := by
  have hshown (hk : ∀ u : Value, v.same u ↔ v = u) (hk' : v.shown = w) :
      v.same w ↔ v.LeapEndsMinute := by
    rw [hk, ← hk', ← shown_eq_iff, eq_comm]
  cases v with
  | time | timeTz | timestamp | timestampTz =>
      exact hshown (fun u => decide_eq_true_iff) (of_decide_eq_true h)
  | _ => exact iff_of_true h trivial

/-- Reading the document of a value gives a value equal to the one that is shown. That is an equal value, except
for a leap second within a minute. -/
theorem ofDocument?_document_same {v : Value} (hv : v.kind ≠ .double)
    (hscale : ∀ d, v = decimal d →
      Int32.minValue.toInt ≤ d.scale ∧ d.scale ≤ Int32.maxValue.toInt) :
    ∃ w, ofDocument? v.document = some w ∧ v.shown.same w ∧ (v.same w ↔ v.LeapEndsMinute) := by
  cases hc : v.content? with
  | none =>
      obtain rfl : v = null := by
        cases v <;> first | rfl | cases hc
      exact ⟨null, ofDocument?_null, rfl, same_iff_leapEndsMinute rfl⟩
  | some content =>
      obtain ⟨hwritten, w, hread, hsame⟩ := ofContent?_content hv hscale hc
      exact ⟨w, ofDocument?_document hc hwritten hread, hsame, same_iff_leapEndsMinute hsame⟩

/-- A decimal whose zeros the document leaves out, and the leap second before midnight far east of Greenwich. -/
theorem ofDocument?_document_same_of_exponent :
    let v := decimal ⟨-12, -40⟩
    let t := timeTz ⟨⟨86399, 1500000000, by decide, by decide⟩, 64800⟩
    (v.kind ≠ .double ∧
        (∀ d, v = decimal d → Int32.minValue.toInt ≤ d.scale ∧ d.scale ≤ Int32.maxValue.toInt) ∧
          v.document = "\x7b\"type\":\"Decimal\",\"value\":\"-12e+40\"\x7d" ∧
            ∃ w, ofDocument? v.document = some w ∧ v.same w) ∧
      t.LeapEndsMinute ∧ ∃ w, ofDocument? t.document = some w ∧ t.same w := by
  intro v t
  have hkind : v.kind ≠ .double := by decide
  have hscale : ∀ d, v = decimal d →
      Int32.minValue.toInt ≤ d.scale ∧ d.scale ≤ Int32.maxValue.toInt := by
    intro d hd
    obtain rfl := decimal.inj hd
    decide
  have hzoned : t.kind ≠ .double := by decide
  have hleap : t.LeapEndsMinute := fun _ => rfl
  obtain ⟨w, hread, -, hsame⟩ := ofDocument?_document_same hkind hscale
  obtain ⟨u, hread', -, hsame'⟩ := ofDocument?_document_same hzoned fun d hd => (nomatch hd)
  exact ⟨⟨hkind, hscale, by decide +kernel, w, hread, hsame.mpr trivial⟩,
    hleap, u, hread', hsame'.mpr hleap⟩

/-- A leap second after 23:56:04 is written as 23:56:05, and that is what is read. -/
theorem ofDocument?_document_moves_leap_second :
    let v := time ⟨86164, 1333333333, by decide, by decide⟩
    v.kind ≠ .double ∧ (∀ d, v ≠ decimal d) ∧
      v.document = "\x7b\"type\":\"Time\",\"value\":\"23:56:05.333333333\"\x7d" ∧
      ofDocument? v.document = some (time ⟨86165, 333333333, by decide, by decide⟩) ∧
      ¬ ∃ w, ofDocument? v.document = some w ∧ v.same w := by
  intro v
  have hread : ofDocument? v.document = some (time ⟨86165, 333333333, by decide, by decide⟩) := by
    decide +kernel
  refine ⟨by decide, fun d hd => (nomatch hd), by decide +kernel, hread, ?_⟩
  rintro ⟨w, hw, hsame⟩
  obtain rfl := Option.some.inj (hw.symm.trans hread)
  exact absurd hsame (by decide)

end Value

end SqlInterval
