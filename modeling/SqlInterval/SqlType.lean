import SqlInterval.TypeName

/-!
# Kinds and types

The kind of a value says what sort of thing it is; intervals have one kind for every qualifier. A
type is a kind with a precision and a scale.
-/

namespace SqlInterval

inductive Kind where
  | null | integer | bigInt | decimal | double
  | date | time | timeTz | timestamp | timestampTz
  | interval (q : Qualifier)
deriving DecidableEq, Repr

namespace Kind

def qualifier? : Kind → Option Qualifier
  | interval q => some q
  | _ => none

def isInterval (k : Kind) : Bool := k.qualifier?.isSome

def isYearMonth : Kind → Bool
  | interval q => q.isYearMonth
  | _ => false

def isDayTime : Kind → Bool
  | interval q => !q.isYearMonth
  | _ => false

def isTimeOfDay : Kind → Bool
  | time | timeTz => true
  | _ => false

def isDatetime : Kind → Bool
  | date | time | timeTz | timestamp | timestampTz => true
  | _ => false

def isNumeric : Kind → Bool
  | integer | bigInt | decimal | double => true
  | _ => false

/-- The kind's name in SQL. -/
def name : Kind → String
  | null => "NULL"
  | integer => "INTEGER"
  | bigInt => "BIGINT"
  | decimal => "NUMERIC"
  | double => "DOUBLE PRECISION"
  | date => "DATE"
  | time => "TIME"
  | timeTz => "TIME WITH TIME ZONE"
  | timestamp => "TIMESTAMP"
  | timestampTz => "TIMESTAMP WITH TIME ZONE"
  | interval q => "INTERVAL " ++ q.text

/-- The precision of a type for which none is declared. -/
def defaultPrecision : Kind → Int
  | null => 1
  | integer => 32
  | bigInt => 64
  | decimal => 100000
  | double => 53
  | date => 10
  | time => 8
  | timeTz => 14
  | timestamp => 26
  | timestampTz => 32
  | interval _ => Qualifier.defaultPrecision

/-- The scale of a type for which none is declared. -/
def defaultScale : Kind → Int
  | timestamp | timestampTz => 6
  | interval q => if q.hasSeconds then Qualifier.defaultScale else 0
  | _ => 0

end Kind

structure SqlType where
  kind : Kind
  precision : Int
  scale : Int
deriving DecidableEq, Repr

namespace SqlType

/-- The type of a kind for which nothing is declared. -/
def of (k : Kind) : SqlType := ⟨k, k.defaultPrecision, k.defaultScale⟩

def intervalHourToSecond : SqlType :=
  ⟨.interval .hourToSecond, Qualifier.maxPrecision, Qualifier.defaultScale⟩

def intervalDay : SqlType := ⟨.interval .day, Qualifier.maxPrecision, 0⟩

def intervalDayToSecond : SqlType :=
  ⟨.interval .dayToSecond, Qualifier.maxPrecision, Qualifier.defaultScale⟩

/-- The type's name in SQL, with precision and scale as far as the kind shows them. -/
def chars (t : SqlType) : List Char :=
  let scale := bracket (Numeral.int t.scale)
  match t.kind with
  | .interval q => q.typeText (some t.precision) (if q.hasSeconds then some t.scale else none)
  | .decimal =>
    "NUMERIC".toList ++ bracket (Numeral.int t.precision ++ ", ".toList ++ Numeral.int t.scale)
  | .time | .timestamp => t.kind.name.toList ++ (if t.scale = 0 then [] else scale)
  | .timeTz => "TIME".toList ++ scale ++ " WITH TIME ZONE".toList
  | .timestampTz => "TIMESTAMP".toList ++ scale ++ " WITH TIME ZONE".toList
  | k => k.name.toList

def text (t : SqlType) : String := .ofList t.chars

end SqlType

end SqlInterval
