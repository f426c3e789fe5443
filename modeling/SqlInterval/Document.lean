import SqlInterval.Session
import SqlInterval.Value.Document

/-!
# Types and settings in documents

A type is a record of its kind, precision and scale. Of the settings every member may be missing.
-/

namespace SqlInterval

namespace Kind

/-- The kinds that are known by a name alone. -/
def unqualified : List Kind :=
  [null, integer, bigInt, decimal, double, date, time, timeTz, timestamp, timestampTz]

/-- The name under which documents hold the kind; an interval's qualifier stands beside it. -/
def label : Kind → String
  | null => "Null"
  | integer => "Integer"
  | bigInt => "BigInt"
  | decimal => "Decimal"
  | double => "Double"
  | date => "Date"
  | time => "Time"
  | timeTz => "TimeTz"
  | timestamp => "Timestamp"
  | timestampTz => "TimestampTz"
  | interval _ => "Interval"

def toJson : Kind → Json
  | interval q => .record [("Interval", .ofString q.label)]
  | k => .ofString k.label

/-- An interval kind is an object whose only member is the qualifier. -/
def ofJson? (j : Json) : Option Kind :=
  let named? : Option Kind :=
    (j.choice? false).bind fun name => unqualified.find? (·.label.toList = name)
  match j with
  | .object [(k, q)] =>
    if Json.decode? k = some "Interval".toList then (Qualifier.ofJson? false q).map interval
    else named?
  | _ => named?

end Kind

namespace SqlType

def toJson (t : SqlType) : Json :=
  .record [("value_type", t.kind.toJson), ("precision", .ofInt t.precision),
    ("scale", .ofInt t.scale)]

def document (t : SqlType) : String := .ofList t.toJson.chars

def ofJson? (j : Json) : Option SqlType := do
  match ← j.allFields? ["value_type", "precision", "scale"] with
  | [kind, precision, scale] =>
    return ⟨← Kind.ofJson? kind, (← precision.int64?).toInt, (← scale.int32?).toInt⟩
  | _ => none

def ofDocument? (s : String) : Option SqlType := (Json.read? s.toList).bind ofJson?

end SqlType

namespace Settings

def toJson (s : Settings) : Json :=
  .record [("time_zone_offset_seconds", .ofInt s.zoneOffset.toInt)]

def document (s : Settings) : String := .ofList s.toJson.chars

def ofJson? (j : Json) : Option Settings := do
  match ← j.fields? ["time_zone_offset_seconds"] with
  | [some offset] => return ⟨← offset.int32?⟩
  | [none] => some {}
  | _ => none

def ofDocument? (s : String) : Option Settings := (Json.read? s.toList).bind ofJson?

end Settings

end SqlInterval
