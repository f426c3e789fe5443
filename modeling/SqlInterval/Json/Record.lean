import SqlInterval.Json.Basic

/-!
# Typed reading of documents

A record is an object with named members, or an array of its fields in order. Members with other
names are passed over, and are not looked into unless the document had to be held back before it was
known what it is; then every part of it must denote something.
-/

namespace SqlInterval.Json

/-- The value of a string. -/
def text? : Json → Option (List Char)
  | string raw => decode? raw
  | _ => none

def bool? : Json → Option Bool
  | bool b => some b
  | _ => none

def number? : Json → Option Number
  | number lexeme => Number.ofChars? lexeme
  | _ => none

/-- An integer from `least` to `greatest`. -/
def integer? (least greatest : Int) (j : Json) : Option Int :=
  match j.number? with
  | some (.integer z) => if least ≤ z ∧ z ≤ greatest then some z else none
  | _ => none

/-! ## Records -/

/-- The members of an object, with their names decoded. -/
def namedMembers? (members : List (List Char × Json)) : Option (List (List Char × Json)) :=
  members.mapM fun (k, j) => (decode? k).map fun name => (name, j)

/-- The member with a name, if there is one; it must not stand twice. -/
def member? (members : List (List Char × Json)) (name : String) : Option (Option Json) :=
  match members.filter (·.1 = name.toList) with
  | [] => some none
  | [(_, j)] => some (some j)
  | _ => none

/-- The fields with the given names, as far as they are there. -/
def fields? (names : List String) : Json → Option (List (Option Json))
  | object members => do
    let members ← namedMembers? members
    names.mapM (member? members)
  | array items =>
    if items.length ≤ names.length then
      some (items.map some ++ List.replicate (names.length - items.length) none)
    else none
  | _ => none

/-- All the fields with the given names. -/
def allFields? (names : List String) (j : Json) : Option (List Json) := do
  (← j.fields? names).mapM id

/-! ## Choices -/

/-- The name of a choice without content: a string, or an object whose only member has that name and
is null. What has been held back may also be an empty object there. -/
def choice? (held : Bool) : Json → Option (List Char)
  | string raw => decode? raw
  | object [(k, null)] => decode? k
  | object [(k, object [])] => if held then decode? k else none
  | _ => none

/-- Whether every string and every number in a document denotes something. -/
def readable (j : Json) : Bool :=
  match j with
  | null | bool _ => true
  | number lexeme => (Number.ofChars? lexeme).isSome
  | string raw => (decode? raw).isSome
  | array items => readableItems items
  | object members => readableMembers members
where
  readableItems : List Json → Bool
    | [] => true
    | j :: js => readable j && readableItems js
  readableMembers : List (List Char × Json) → Bool
    | [] => true
    | (k, j) :: ms => (decode? k).isSome && readable j && readableMembers ms

/-- How many arrays and objects stand inside one another. -/
def nesting (j : Json) : Nat :=
  match j with
  | array items => nestingItems items + 1
  | object members => nestingMembers members + 1
  | _ => 0
where
  nestingItems : List Json → Nat
    | [] => 0
    | j :: js => max (nesting j) (nestingItems js)
  nestingMembers : List (List Char × Json) → Nat
    | [] => 0
    | (_, j) :: ms => max (nesting j) (nestingMembers ms)

/-- The deepest nesting of content that is looked into as a whole. -/
def maxNesting : Nat := 126

/-- A choice with content, as an object with the members `type` and `value` or as an array of the
two: the name, the content if there is one, and whether the content had to be held back because it
stands before the name. In an object the type may be any choice without content, in an array only a
string. -/
def tagged? : Json → Option (List Char × Option Json × Bool)
  | object members => do
    let members ← namedMembers? members
    let tag ← member? members "type"
    let content ← member? members "value"
    let name ← (← tag).choice? false
    let position (name : String) : Nat := members.findIdx (·.1 = name.toList)
    match content with
    | none => some (name, none, false)
    | some j =>
      let held := position "value" < position "type"
      if held && !(j.readable && j.nesting ≤ maxNesting) then none
      else some (name, some j, held)
  | array [tag, content] => do
    return (← tag.text?, some content, false)
  | _ => none

end SqlInterval.Json
