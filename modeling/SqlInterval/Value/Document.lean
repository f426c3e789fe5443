import SqlInterval.Calendar.Iso
import SqlInterval.Json.Record

/-!
# Values in documents

A value is written as its kind's name and its content. Reading does not check the bounds of interval
fields and of zone offsets: it takes what the words can hold.
-/

namespace SqlInterval

namespace Qualifier

def all : List Qualifier :=
  [year, month, day, hour, minute, second, yearToMonth, dayToHour, dayToMinute, dayToSecond,
    hourToMinute, hourToSecond, minuteToSecond]

/-- The name under which documents hold the qualifier. -/
def label : Qualifier → String
  | year => "Year"
  | month => "Month"
  | day => "Day"
  | hour => "Hour"
  | minute => "Minute"
  | second => "Second"
  | yearToMonth => "YearToMonth"
  | dayToHour => "DayToHour"
  | dayToMinute => "DayToMinute"
  | dayToSecond => "DayToSecond"
  | hourToMinute => "HourToMinute"
  | hourToSecond => "HourToSecond"
  | minuteToSecond => "MinuteToSecond"

def ofLabel? (name : List Char) : Option Qualifier := all.find? (·.label.toList = name)

def ofJson? (held : Bool) (j : Json) : Option Qualifier := (j.choice? held).bind ofLabel?

end Qualifier

namespace Json

def ofString (s : String) : Json := string s.toList

def ofInt (z : Int) : Json := number (Numeral.int z)

/-- An object with plain names. -/
def record (members : List (String × Json)) : Json :=
  object (members.map fun (k, j) => (k.toList, j))

/-- A signed word of 32 bits. -/
def int32? (j : Json) : Option Int32 :=
  (j.integer? Int32.minValue.toInt Int32.maxValue.toInt).map Int32.ofInt

/-- A signed word of 64 bits. -/
def int64? (j : Json) : Option Int64 :=
  (j.integer? Int64.minValue.toInt Int64.maxValue.toInt).map Int64.ofInt

/-- A word of 64 bits. -/
def uint64? (j : Json) : Option UInt64 :=
  (j.integer? 0 (UInt64.size - 1)).map fun z => UInt64.ofNat z.toNat

end Json

/-! ## Writing -/

def Double.toJson (x : Double) : Json :=
  match x.documentChars? with
  | some cs => .number cs
  | none => .null

namespace Interval

def toJson (i : Interval) : Json :=
  .record [("qualifier", .ofString i.qualifier.label), ("negative", .bool i.negative),
    ("leading", .ofInt i.leading.toNat), ("remaining", .ofInt i.remaining.toNat)]

end Interval

namespace Value

/-- The name of the value's kind in documents; all intervals have one name. -/
def label : Value → String
  | null => "Null"
  | integer _ => "Integer"
  | bigInt _ => "BigInt"
  | decimal _ => "Decimal"
  | double _ => "Double"
  | date _ => "Date"
  | time _ => "Time"
  | timeTz _ => "TimeTz"
  | timestamp _ => "Timestamp"
  | timestampTz _ => "TimestampTz"
  | interval _ => "Interval"

/-- The content that stands beside the kind's name; null has none. -/
def content? : Value → Option Json
  | null => none
  | integer n => some (.ofInt n.toInt)
  | bigInt n => some (.ofInt n.toInt)
  | decimal d => some (.string d.short)
  | double x => some x.toJson
  | date d => some (.string d.chars)
  | time t => some (.string t.isoChars)
  | timeTz t =>
    some (.record [("time", .string t.time.isoChars), ("offset_seconds", .ofInt t.offset.toInt)])
  | timestamp t => some (.string t.isoChars)
  | timestampTz t =>
    some (.record [("local", .string t.clock.isoChars), ("offset_seconds", .ofInt t.offset.toInt)])
  | interval i => some i.toJson

def toJson (v : Value) : Json :=
  match v.content? with
  | none => .record [("type", .ofString v.label)]
  | some content => .record [("type", .ofString v.label), ("value", content)]

def document (v : Value) : String := .ofList v.toJson.chars

end Value

/-! ## Reading -/

/-- The name of the only member of an object that stands for the number which it holds. -/
def Decimal.wrapper : String := "$serde_json::private::Number"

/-- A decimal is a string, or any number; a double is taken for the decimal that it is. Either may be
wrapped in objects, whose member is named without escapes. -/
def Decimal.ofJson? (j : Json) : Option Decimal :=
  match j with
  | .string raw => (Json.decode? raw).bind read?
  | .number lexeme =>
    match Json.Number.ofChars? lexeme with
    | some (.integer z) => some (ofInt z)
    | some (.double x) => x.toDecimal?
    | none => none
  | .object [(k, inner)] => if k = wrapper.toList then ofJson? inner else none
  | _ => none

def Interval.ofJson? (held : Bool) (j : Json) : Option Interval := do
  match ← j.allFields? ["qualifier", "negative", "leading", "remaining"] with
  | [q, negative, leading, remaining] =>
    return ⟨← Qualifier.ofJson? held q, ← negative.bool?, ← leading.uint64?, ← remaining.uint64?⟩
  | _ => none

def ZonedTime.ofJson? (j : Json) : Option ZonedTime := do
  match ← j.allFields? ["time", "offset_seconds"] with
  | [time, offset] => return ⟨← time.text?.bind TimeOfDay.readIso?, ← offset.int32?⟩
  | _ => none

def ZonedTimestamp.ofJson? (j : Json) : Option ZonedTimestamp := do
  match ← j.allFields? ["local", "offset_seconds"] with
  | [clock, offset] => return ⟨← clock.text?.bind Timestamp.readIso?, ← offset.int32?⟩
  | _ => none

namespace Value

/-- A value whose kind has the given name, from its content. -/
def ofContent? (name : String) (held : Bool) (j : Json) : Option Value :=
  match name with
  | "Null" =>
    match j with
    | .null => some null
    | _ => none
  | "Integer" => j.int32?.map integer
  | "BigInt" => j.int64?.map bigInt
  | "Decimal" => if j.nesting ≤ Json.maxNesting then (Decimal.ofJson? j).map decimal else none
  | "Double" => j.number?.map fun n => double n.toDouble
  | "Date" => (j.text?.bind Date.readIso?).map date
  | "Time" => (j.text?.bind TimeOfDay.readIso?).map time
  | "TimeTz" => (ZonedTime.ofJson? j).map timeTz
  | "Timestamp" => (j.text?.bind Timestamp.readIso?).map timestamp
  | "TimestampTz" => (ZonedTimestamp.ofJson? j).map timestampTz
  | "Interval" => (Interval.ofJson? held j).map interval
  | _ => none

/-- Only null can do without content. -/
def ofJson? (j : Json) : Option Value := do
  let (name, content, held) ← j.tagged?
  match content with
  | some content => ofContent? (.ofList name) held content
  | none => if name = "Null".toList then some null else none

def ofDocument? (s : String) : Option Value := (Json.read? s.toList).bind ofJson?

end Value

end SqlInterval
