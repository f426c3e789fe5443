/-!
# Strings in documents

The text between two quotes, with its escapes. Finding where a string ends checks the form of the
escapes; decoding also asks that they denote characters, so that a lone half of a surrogate pair is
found only then.
-/

namespace SqlInterval.Json

def hexValue? (c : Char) : Option Nat :=
  if c.isDigit then some (c.toNat - '0'.toNat)
  else if 'a' ≤ c ∧ c ≤ 'f' then some (c.toNat - 'a'.toNat + 10)
  else if 'A' ≤ c ∧ c ≤ 'F' then some (c.toNat - 'A'.toNat + 10)
  else none

/-- The number that four hexadecimal digits denote. -/
def hexUnit? (a b c d : Char) : Option Nat := do
  return 4096 * (← hexValue? a) + 256 * (← hexValue? b) + 16 * (← hexValue? c) + (← hexValue? d)

/-- The character that a letter after a backslash stands for. -/
def escape? : Char → Option Char
  | '"' => some '"'
  | '\\' => some '\\'
  | '/' => some '/'
  | 'b' => some '\x08'
  | 'f' => some '\x0c'
  | 'n' => some '\n'
  | 'r' => some '\r'
  | 't' => some '\t'
  | _ => none

/-- The text up to the closing quote, and what follows that. -/
def scanString? : List Char → Option (List Char × List Char)
  | [] => none
  | '"' :: rest => some ([], rest)
  | '\\' :: 'u' :: a :: b :: c :: d :: rest =>
    if (hexUnit? a b c d).isSome then
      (scanString? rest).map fun (raw, r) => ('\\' :: 'u' :: a :: b :: c :: d :: raw, r)
    else none
  | '\\' :: c :: rest =>
    if (escape? c).isSome then (scanString? rest).map fun (raw, r) => ('\\' :: c :: raw, r)
    else none
  | c :: rest =>
    if c = '\\' ∨ c.toNat < 0x20 then none
    else (scanString? rest).map fun (raw, r) => (c :: raw, r)

/-- The first half of a surrogate pair. -/
def isHighSurrogate (n : Nat) : Bool := 0xd800 ≤ n && n < 0xdc00

/-- The second half of a surrogate pair. -/
def isLowSurrogate (n : Nat) : Bool := 0xdc00 ≤ n && n < 0xe000

/-- The text that a string's inside denotes. -/
def decode? : List Char → Option (List Char)
  | [] => some []
  | '\\' :: 'u' :: a :: b :: c :: d :: '\\' :: 'u' :: e :: f :: g :: h :: rest => do
    let n ← hexUnit? a b c d
    if isLowSurrogate n then none
    else if isHighSurrogate n then
      let m ← hexUnit? e f g h
      if isLowSurrogate m then
        return .ofNat (0x10000 + 0x400 * (n - 0xd800) + (m - 0xdc00)) :: (← decode? rest)
      else none
    else
      return .ofNat n :: (← decode? ('\\' :: 'u' :: e :: f :: g :: h :: rest))
  | '\\' :: 'u' :: a :: b :: c :: d :: rest => do
    let n ← hexUnit? a b c d
    if isLowSurrogate n || isHighSurrogate n then none else return .ofNat n :: (← decode? rest)
  | '\\' :: c :: rest => do
    return (← escape? c) :: (← decode? rest)
  | c :: rest => do
    if c = '\\' then none else return c :: (← decode? rest)

end SqlInterval.Json
