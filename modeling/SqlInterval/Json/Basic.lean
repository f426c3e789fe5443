import SqlInterval.Json.Number
import SqlInterval.Json.Text

/-!
# Documents

The tree of a JSON document, its text, and the reader that finds the tree.
Strings and numbers stay as they are written: the reader checks their form, and what uses them finds
what they denote.
-/

namespace SqlInterval

inductive Json where
  | null
  | bool (b : Bool)
  | number (lexeme : List Char)
  | string (raw : List Char)
  | array (items : List Json)
  | object (members : List (List Char × Json))

namespace Json

/-! ## Writing -/

mutual
def chars : Json → List Char
  | null => "null".toList
  | bool true => "true".toList
  | bool false => "false".toList
  | number lexeme => lexeme
  | string raw => '"' :: raw ++ ['"']
  | array items => '[' :: itemsChars items ++ [']']
  | object members => '{' :: membersChars members ++ ['}']

def itemsChars : List Json → List Char
  | [] => []
  | [j] => j.chars
  | j :: js => j.chars ++ ',' :: itemsChars js

def membersChars : List (List Char × Json) → List Char
  | [] => []
  | [(k, j)] => '"' :: k ++ '"' :: ':' :: j.chars
  | (k, j) :: ms => '"' :: k ++ '"' :: ':' :: j.chars ++ ',' :: membersChars ms
end

/-! ## Reading -/

def isBlank (c : Char) : Bool := c = ' ' || c = '\t' || c = '\n' || c = '\r'

def skipBlanks (cs : List Char) : List Char := cs.dropWhile isBlank

/-- A character that can stand in a number. -/
def isNumberChar (c : Char) : Bool :=
  c.isDigit || c = '+' || c = '-' || c = '.' || c = 'e' || c = 'E'

/-- The longest text of characters that can stand in a number, which must be one. -/
def readNumber? (cs : List Char) : Option (Json × List Char) :=
  let lexeme := cs.takeWhile isNumberChar
  if (NumberParts.ofChars? lexeme).isSome then some (number lexeme, cs.dropWhile isNumberChar)
  else none

mutual
/-- A value and what follows it. -/
def readValue? : Nat → List Char → Option (Json × List Char)
  | 0, _ => none
  | fuel + 1, cs =>
    match skipBlanks cs with
    | 'n' :: 'u' :: 'l' :: 'l' :: rest => some (null, rest)
    | 't' :: 'r' :: 'u' :: 'e' :: rest => some (bool true, rest)
    | 'f' :: 'a' :: 'l' :: 's' :: 'e' :: rest => some (bool false, rest)
    | '"' :: rest => (scanString? rest).map fun (raw, r) => (string raw, r)
    | '[' :: rest =>
      match skipBlanks rest with
      | ']' :: r => some (array [], r)
      | _ => (readItems? fuel rest).map fun (items, r) => (array items, r)
    | '{' :: rest =>
      match skipBlanks rest with
      | '}' :: r => some (object [], r)
      | _ => (readMembers? fuel rest).map fun (members, r) => (object members, r)
    | rest => readNumber? rest

/-- The items of an array that is not empty, through its closing bracket. -/
def readItems? : Nat → List Char → Option (List Json × List Char)
  | 0, _ => none
  | fuel + 1, cs => do
    let (j, rest) ← readValue? fuel cs
    match skipBlanks rest with
    | ']' :: r => some ([j], r)
    | ',' :: r => (readItems? fuel r).map fun (js, r) => (j :: js, r)
    | _ => none

/-- The members of an object that is not empty, through its closing brace. -/
def readMembers? : Nat → List Char → Option (List (List Char × Json) × List Char)
  | 0, _ => none
  | fuel + 1, cs =>
    match skipBlanks cs with
    | '"' :: rest => do
      let (k, rest) ← scanString? rest
      match skipBlanks rest with
      | ':' :: rest => do
        let (j, rest) ← readValue? fuel rest
        match skipBlanks rest with
        | '}' :: r => some ([(k, j)], r)
        | ',' :: r => (readMembers? fuel r).map fun (ms, r) => ((k, j) :: ms, r)
        | _ => none
      | _ => none
    | _ => none
end

/-- The tree of a text that is one value. A call that does not consume a character is followed by one
that does, so twice the length bounds the depth of the calls. -/
def read? (cs : List Char) : Option Json :=
  match readValue? (2 * cs.length + 2) cs with
  | some (j, rest) => if skipBlanks rest = [] then some j else none
  | none => none

end Json

end SqlInterval
