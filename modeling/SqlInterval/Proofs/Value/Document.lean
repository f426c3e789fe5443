import SqlInterval.Proofs.Calendar.Iso
import SqlInterval.Proofs.Interval.Absolute
import SqlInterval.Proofs.Json.Number
import SqlInterval.Proofs.Value.Instant

/-!
# Values through documents

What is written for an interval or for a time with a zone is read back as it was, but for a leap second
within a minute. The fields have to fit their words and nothing else, so that a document can hold values
that could not be put together from their fields.
-/

namespace SqlInterval

/-! ## The contents as they are written -/

theorem Json.written_record {members : List (String × Json)} :
    (record members).Written ↔ ∀ m ∈ members, Plain m.1.toList ∧ m.2.Written := by
  induction members with
  | nil => exact iff_of_true trivial fun m hm => absurd hm List.not_mem_nil
  | cons m ms ih =>
      have hcons : (record (m :: ms)).Written ↔
          Plain m.1.toList ∧ m.2.Written ∧ (record ms).Written := Iff.rfl
      rw [hcons, ih, List.forall_mem_cons, and_assoc]

theorem yearChars_plain (y : Int) : Json.Plain (yearChars y) := by
  have hpad := Json.plain_digits (Numeral.pad_digits 4 y.natAbs)
  have hnat := Json.plain_digits (Numeral.nat_digits y.natAbs)
  unfold yearChars
  split
  · simp [hpad]
  · split
    · simp [hnat]
    · exact hpad

theorem Date.chars_plain (d : Date) : Json.Plain d.chars := by
  have hpad (n : Nat) := Json.plain_digits (Numeral.pad_digits 2 n)
  simp [chars, yearChars_plain, hpad]

theorem TimeOfDay.isoChars_plain (t : TimeOfDay) : Json.Plain t.isoChars := by
  have hpad (width n : Nat) := Json.plain_digits (Numeral.pad_digits width n)
  have hfraction (n : Nat) : Json.Plain (fractionGroups n) := by
    unfold fractionGroups
    split
    · exact Json.plain_nil
    · split
      · simp [hpad]
      · split <;> simp [hpad]
  simp [isoChars, hpad, hfraction]

theorem Timestamp.isoChars_plain (t : Timestamp) : Json.Plain t.isoChars := by
  simp [isoChars, t.date.chars_plain, t.time.isoChars_plain]

theorem Interval.toJson_written (i : Interval) : i.toJson.Written := by
  have hlabel : Json.Plain i.qualifier.label.toList := by
    cases i.qualifier <;> decide
  have hnames : Json.Plain "qualifier".toList ∧ Json.Plain "negative".toList ∧
      Json.Plain "leading".toList ∧ Json.Plain "remaining".toList := by decide
  obtain ⟨hqualifier, hnegative, hleading, hremaining⟩ := hnames
  rw [toJson, Json.written_record]
  simp only [List.forall_mem_cons, List.not_mem_nil, false_implies, implies_true, and_true]
  exact ⟨⟨hqualifier, hlabel⟩, ⟨hnegative, trivial⟩, ⟨hleading, Json.written_ofInt _⟩,
    ⟨hremaining, Json.written_ofInt _⟩⟩

theorem ZoneOffset.record_written {name : String} {chars : List Char} (offset : ZoneOffset)
    (hname : Json.Plain name.toList) (hchars : Json.Plain chars) :
    (Json.record [(name, .string chars), ("offset_seconds", .ofInt offset.toInt)]).Written := by
  have hoffset : Json.Plain "offset_seconds".toList := by decide
  rw [Json.written_record]
  simp only [List.forall_mem_cons, List.not_mem_nil, false_implies, implies_true, and_true]
  exact ⟨⟨hname, hchars⟩, hoffset, Json.written_ofInt _⟩

/-! ## The contents read back -/

theorem Qualifier.ofJson?_label (q : Qualifier) : ofJson? false (.ofString q.label) = some q := by
  cases q <;> rfl

theorem Interval.ofJson?_toJson (i : Interval) : ofJson? false i.toJson = some i := by
  have hfields : i.toJson.allFields? ["qualifier", "negative", "leading", "remaining"] =
      some [.ofString i.qualifier.label, .bool i.negative, .ofInt i.leading.toNat,
        .ofInt i.remaining.toNat] := rfl
  simp only [ofJson?, hfields, Option.bind_eq_bind, Option.bind_some, Qualifier.ofJson?_label,
    Json.bool?, Json.uint64?_ofInt]
  rfl

theorem ZonedTime.ofJson?_record (t : ZonedTime) :
    ofJson? (.record [("time", .string t.time.isoChars), ("offset_seconds", .ofInt t.offset.toInt)]) =
      some ⟨t.time.shown, t.offset⟩ := by
  have hfields : (Json.record [("time", .string t.time.isoChars),
      ("offset_seconds", .ofInt t.offset.toInt)]).allFields? ["time", "offset_seconds"] =
        some [.string t.time.isoChars, .ofInt t.offset.toInt] := rfl
  simp only [ofJson?, hfields, Option.bind_eq_bind, Option.bind_some, Json.text?,
    Json.decode?_plain t.time.isoChars_plain, t.time.readIso?_isoChars, Json.int32?_ofInt]
  rfl

theorem ZonedTimestamp.ofJson?_record (t : ZonedTimestamp) :
    ofJson? (.record [("local", .string t.clock.isoChars), ("offset_seconds", .ofInt t.offset.toInt)]) =
      some ⟨t.clock.shown, t.offset⟩ := by
  have hfields : (Json.record [("local", .string t.clock.isoChars),
      ("offset_seconds", .ofInt t.offset.toInt)]).allFields? ["local", "offset_seconds"] =
        some [.string t.clock.isoChars, .ofInt t.offset.toInt] := rfl
  simp only [ofJson?, hfields, Option.bind_eq_bind, Option.bind_some, Json.text?,
    Json.decode?_plain t.clock.isoChars_plain, t.clock.readIso?_isoChars, Json.int32?_ofInt]
  rfl

/-! ## Whole documents -/

theorem Json.tagged?_record {label : String} (h : Plain label.toList) (content : Json) :
    (record [("type", .ofString label), ("value", content)]).tagged? =
      some (label.toList, some content, false) := by
  have hread : (record [("type", .ofString label), ("value", content)]).tagged? =
      (decode? label.toList).bind fun name => some (name, some content, false) := rfl
  rw [hread, decode?_plain h, Option.bind_some]

namespace Value

theorem label_plain (v : Value) : Json.Plain v.label.toList := by
  cases v <;> simp only [label] <;> decide

/-- From the document is read what is read from the content, under the name of the kind. -/
theorem ofDocument?_document {v w : Value} {content : Json} (hv : v.content? = some content)
    (hwritten : content.Written) (hread : ofContent? v.label false content = some w) :
    ofDocument? v.document = some w := by
  have hjson : v.toJson = .record [("type", .ofString v.label), ("value", content)] := by
    rw [toJson, hv]
  have htree : v.toJson.Written := by
    have hnames : Json.Plain "type".toList ∧ Json.Plain "value".toList := by decide
    rw [hjson, Json.written_record]
    simp only [List.forall_mem_cons, List.not_mem_nil, false_implies, implies_true, and_true]
    exact ⟨⟨hnames.1, v.label_plain⟩, ⟨hnames.2, hwritten⟩⟩
  have hdocument : v.document.toList = v.toJson.chars := String.toList_ofList
  rw [ofDocument?, hdocument, Json.read?_chars htree, Option.bind_some, ofJson?, hjson,
    Json.tagged?_record v.label_plain]
  simp only [Option.bind_eq_bind, Option.bind_some, String.ofList_toList, hread]

/-- If the value has a time that is in a leap second, it is one that ends a minute. -/
def LeapEndsMinute : Value → Prop
  | time t => t.LeapEndsMinute
  | timeTz t => t.time.LeapEndsMinute
  | timestamp t => t.time.LeapEndsMinute
  | timestampTz t => t.clock.time.LeapEndsMinute
  | _ => True

/-- The value with the time that documents show. -/
def shown : Value → Value
  | time t => time t.shown
  | timeTz t => timeTz ⟨t.time.shown, t.offset⟩
  | timestamp t => timestamp t.shown
  | timestampTz t => timestampTz ⟨t.clock.shown, t.offset⟩
  | v => v

theorem shown_eq_iff {v : Value} : v.shown = v ↔ v.LeapEndsMinute := by
  have htimestamp (t : Timestamp) : t.shown = t ↔ t.time.LeapEndsMinute := by
    rw [← TimeOfDay.shown_eq_iff]
    exact ⟨congrArg Timestamp.time, fun h => congrArg (Timestamp.mk t.date) h⟩
  cases v with
  | time t => rw [shown, LeapEndsMinute, time.injEq, TimeOfDay.shown_eq_iff]
  | timestamp t => rw [shown, LeapEndsMinute, timestamp.injEq, htimestamp]
  | timeTz t =>
      rw [shown, LeapEndsMinute, timeTz.injEq, ← TimeOfDay.shown_eq_iff]
      exact ⟨congrArg ZonedTime.time, fun h => congrArg (ZonedTime.mk · t.offset) h⟩
  | timestampTz t =>
      rw [shown, LeapEndsMinute, timestampTz.injEq, ← htimestamp]
      exact ⟨congrArg ZonedTimestamp.clock, fun h => congrArg (ZonedTimestamp.mk · t.offset) h⟩
  | _ => exact iff_of_true rfl trivial

theorem shown_valid {v : Value} : v.shown.Valid ↔ v.Valid := by
  cases v <;> exact Iff.rfl

/-- The fields of the value have bounds that their words have not. -/
def hasBounds : Value → Bool
  | timeTz _ | timestampTz _ | interval _ => true
  | _ => false

/-- The value is put together from its fields, which were checked. -/
inductive Checked : Value → Prop where
  | timeTz {time : TimeOfDay} {offset : ZoneOffset} {t : ZonedTime}
      (h : ZonedTime.new time offset = .ok t) : Checked (timeTz t)
  | timestampTz {clock : Timestamp} {offset : ZoneOffset} {t : ZonedTimestamp}
      (h : ZonedTimestamp.new clock offset = .ok t) : Checked (timestampTz t)
  | interval {q : Qualifier} {negative : Bool} {leading remaining : Nat} {i : Interval}
      (h : Interval.new q negative leading remaining = .ok i) : Checked (interval i)

theorem Checked.accepted {v : Value} (h : v.Checked) : v.Accepted := by
  cases h with
  | timeTz h =>
      obtain ⟨rfl, ha⟩ := ZonedTime.new_ok h
      exact ha
  | timestampTz h =>
      obtain ⟨rfl, ha⟩ := ZonedTimestamp.new_ok h
      exact ha
  | interval h => exact Interval.new_valid h

theorem Accepted.checked {v : Value} (hb : v.hasBounds) (h : v.Accepted) : v.Checked := by
  cases v <;> simp only [hasBounds, Bool.false_eq_true] at hb
  case timeTz t =>
    have hnew : ZonedTime.new t.time t.offset = .ok t := by
      rw [ZonedTime.new, ZoneOffset.check_eq h]
      rfl
    exact .timeTz hnew
  case timestampTz t =>
    have hnew : ZonedTimestamp.new t.clock t.offset = .ok t := by
      rw [ZonedTimestamp.new, ZoneOffset.check_eq h]
      rfl
    exact .timestampTz hnew
  case interval i => exact .interval (Interval.Valid.new_fields h)

/-- Besides the valid values, the checks let those with the least word for an offset through. -/
theorem accepted_iff {v : Value} : v.Accepted ↔ v.Valid ∨ v.offset 0 = Int32.minValue := by
  have hzero : ¬ (0 : ZoneOffset) = Int32.minValue := by decide
  cases v with
  | timeTz | timestampTz => exact ZoneOffset.accepted_iff
  | _ => exact (or_iff_left hzero).symm

/-- All the words there are can be read for the fields of an interval or the offset of a zone. -/
theorem ofContent?_of_hasBounds {v : Value} {content : Json} (hb : v.hasBounds)
    (hc : v.content? = some content) :
    content.Written ∧ ofContent? v.label false content = some v.shown := by
  cases v <;> simp only [hasBounds, Bool.false_eq_true] at hb
  case interval i =>
    obtain rfl := Option.some.inj hc
    exact ⟨i.toJson_written, congrArg (Option.map interval) i.ofJson?_toJson⟩
  case timeTz t =>
    obtain rfl := Option.some.inj hc
    have hname : Json.Plain "time".toList := by decide
    exact ⟨t.offset.record_written hname t.time.isoChars_plain,
      congrArg (Option.map timeTz) t.ofJson?_record⟩
  case timestampTz t =>
    obtain rfl := Option.some.inj hc
    have hname : Json.Plain "local".toList := by decide
    exact ⟨t.offset.record_written hname t.clock.isoChars_plain,
      congrArg (Option.map timestampTz) t.ofJson?_record⟩

theorem ofDocument?_document_of_hasBounds {v : Value} (hb : v.hasBounds) :
    ofDocument? v.document = some v.shown := by
  obtain ⟨content, hc⟩ : ∃ content, v.content? = some content := by
    cases v <;> first | exact ⟨_, rfl⟩ | cases hb
  obtain ⟨hwritten, hread⟩ := ofContent?_of_hasBounds hb hc
  exact ofDocument?_document hc hwritten hread

/-- The document of a value is read whether its fields are within their bounds or not, and what is read is as
valid as what was written. The checks would have let only the valid fields through, and the least word for
an offset, whose distance from zero is no number that a word holds. -/
theorem ofDocument?_checks_no_bounds {v : Value} (hb : v.hasBounds) :
    ofDocument? v.document = some v.shown ∧ (v.LeapEndsMinute → v.shown = v) ∧
      (v.shown.Valid ↔ v.Valid) ∧ (v.Checked ↔ v.Valid ∨ v.offset 0 = Int32.minValue) := by
  refine ⟨ofDocument?_document_of_hasBounds hb, shown_eq_iff.mpr, shown_valid, ?_⟩
  rw [← accepted_iff]
  exact ⟨Checked.accepted, Accepted.checked hb⟩

/-- More days than the leading field may have, in a word that has still more room. -/
theorem ofDocument?_checks_no_bounds_of_leading :
    let v := interval ⟨.day, false, 1000000000000000000, 0⟩
    v.hasBounds ∧ ofDocument? v.document = some v ∧ ¬ v.Checked := by
  intro v
  have hb : v.hasBounds := rfl
  obtain ⟨hread, -, -, hchecked⟩ := ofDocument?_checks_no_bounds hb
  have hv : ¬ (⟨.day, false, 1000000000000000000, 0⟩ : Interval).Valid := by decide
  have hzone : ¬ v.offset 0 = Int32.minValue := by decide
  exact ⟨hb, hread, fun h => not_or.mpr ⟨hv, hzone⟩ (hchecked.mp h)⟩

/-- A negative zero, and a zone more than a day east of Greenwich. -/
theorem ofDocument?_reads_negative_zero :
    ofDocument? ("\x7b\"type\":\"Interval\",\"value\":" ++
        "\x7b\"qualifier\":\"Day\",\"negative\":true,\"leading\":0,\"remaining\":0\x7d\x7d") =
          some (interval ⟨.day, true, 0, 0⟩) ∧
      ¬ Valid (interval ⟨.day, true, 0, 0⟩) ∧
      ofDocument? ("\x7b\"type\":\"TimeTz\",\"value\":" ++
        "\x7b\"time\":\"00:00:00\",\"offset_seconds\":100000\x7d\x7d") =
          some (timeTz ⟨.midnight, 100000⟩) ∧
      ¬ Valid (timeTz ⟨.midnight, 100000⟩) := by
  have hzero : ¬ (⟨.day, true, 0, 0⟩ : Interval).Valid := by decide
  have hzone : ¬ (100000 : ZoneOffset).Valid := by decide
  exact ⟨by decide +kernel, hzero, by decide +kernel, hzone⟩

end Value

end SqlInterval
