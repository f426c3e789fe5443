import SqlInterval.Json.Basic
import SqlInterval.Proofs.Numeral

/-!
# Reading back what was written

The text of a tree gives the tree again if its strings need no escapes and its numbers are written as
numbers. A number ends where no character of a number follows; all else ends by itself.
-/

namespace SqlInterval.Json

/-! ## Strings without escapes -/

/-- A text that stands between quotes as it is. -/
def Plain (raw : List Char) : Prop := ∀ c ∈ raw, c ≠ '"' ∧ c ≠ '\\' ∧ ¬ c.toNat < 0x20

instance (raw : List Char) : Decidable (Plain raw) := List.decidableBAll _ raw

@[simp] theorem plain_nil : Plain [] := fun _ hc => absurd hc List.not_mem_nil

@[simp] theorem plain_cons {c : Char} {raw : List Char} :
    Plain (c :: raw) ↔ (c ≠ '"' ∧ c ≠ '\\' ∧ ¬ c.toNat < 0x20) ∧ Plain raw := List.forall_mem_cons

@[simp] theorem plain_append {l r : List Char} : Plain (l ++ r) ↔ Plain l ∧ Plain r :=
  List.forall_mem_append

theorem plain_digits {ds : List Char} (h : ∀ c ∈ ds, c.isDigit) : Plain ds := by
  intro c hc
  have hbounds := toNat_of_isDigit (h c hc)
  refine ⟨?_, ?_, by omega⟩
  · rintro rfl
    exact absurd hbounds (by decide)
  · rintro rfl
    exact absurd hbounds (by decide)

theorem scanString?_plain {raw rest : List Char} (h : Plain raw) :
    scanString? (raw ++ '"' :: rest) = some (raw, rest) := by
  induction raw with
  | nil => rfl
  | cons c raw ih =>
      obtain ⟨⟨hquote, hescape, hcontrol⟩, hraw⟩ := List.forall_mem_cons.mp h
      rw [List.cons_append, scanString?, if_neg (not_or.mpr ⟨hescape, hcontrol⟩), ih hraw]
      · rfl
      · exact hquote
      all_goals
        intros
        exact hescape ‹c = '\\'›

theorem decode?_plain {raw : List Char} (h : Plain raw) : decode? raw = some raw := by
  induction raw with
  | nil => rfl
  | cons c raw ih =>
      obtain ⟨⟨hquote, hescape, hcontrol⟩, hraw⟩ := List.forall_mem_cons.mp h
      rw [decode?, if_neg hescape, ih hraw]
      · rfl
      -- The other cases of the reader begin with a backslash.
      all_goals
        intros
        exact hescape ‹c = '\\'›

/-! ## Trees as they are written -/

mutual
/-- The strings need no escapes, and the numbers are written as numbers. -/
def Written : Json → Prop
  | null | bool _ => True
  | number lexeme => (∀ c ∈ lexeme, isNumberChar c) ∧ (NumberParts.ofChars? lexeme).isSome
  | string raw => Plain raw
  | array items => WrittenItems items
  | object members => WrittenMembers members

def WrittenItems : List Json → Prop
  | [] => True
  | j :: js => j.Written ∧ WrittenItems js

def WrittenMembers : List (List Char × Json) → Prop
  | [] => True
  | (k, j) :: ms => Plain k ∧ j.Written ∧ WrittenMembers ms
end

/-- What begins with a closing bracket is no item. -/
theorem readItems?_bracket {fuel : Nat} {cs r : List Char} (h : skipBlanks cs = ']' :: r) :
    readItems? fuel cs = none := by
  cases fuel with
  | zero => rfl
  | succ fuel =>
      have hvalue : readValue? fuel cs = none := by
        cases fuel with
        | zero => rfl
        | succ fuel =>
            rw [readValue?, h]
            rfl
      rw [readItems?, hvalue]
      rfl

theorem isBlank_of_isNumberChar {c : Char} (h : isNumberChar c) : isBlank c = false := by
  rw [Bool.eq_false_iff]
  intro hb
  simp only [isBlank, Bool.or_eq_true, decide_eq_true_eq] at hb
  rcases hb with ((rfl | rfl) | rfl) | rfl <;> revert h <;> decide

theorem readValue?_number {fuel : Nat} {lexeme rest : List Char} (h : Written (number lexeme))
    (hrest : Stops isNumberChar rest) :
    readValue? (fuel + 1) (lexeme ++ rest) = some (number lexeme, rest) := by
  obtain ⟨hchars, hparts⟩ := h
  have hne : lexeme ≠ [] := by
    rintro rfl
    revert hparts
    decide
  have hblank : skipBlanks (lexeme ++ rest) = lexeme ++ rest :=
    Stops.dropWhile (stops_append hchars hne fun c hc => isBlank_of_isNumberChar hc)
  have hread : readNumber? (lexeme ++ rest) = some (number lexeme, rest) := by
    rw [readNumber?, hrest.takeWhile_append hchars, if_pos hparts, hrest.dropWhile_append hchars]
  obtain ⟨c, cs, rfl⟩ := List.exists_cons_of_ne_nil hne
  have hc := hchars c List.mem_cons_self
  rw [readValue?, hblank]
  -- No other value begins with a character that can stand in a number.
  split
  case h_7 => exact hread
  all_goals
    rename_i heq
    obtain ⟨rfl, -⟩ := List.cons.inj heq
    exact absurd hc (by decide)

/-- The first member of an object, which is the last one as well or has others after it. -/
theorem readMembers?_member {fuel : Nat} {k cs r : List Char} {j : Json} (hk : Plain k) :
    (readValue? fuel cs = some (j, '}' :: r) →
      readMembers? (fuel + 1) ('"' :: (k ++ '"' :: ':' :: cs)) = some ([(k, j)], r)) ∧
    (readValue? fuel cs = some (j, ',' :: r) →
      readMembers? (fuel + 1) ('"' :: (k ++ '"' :: ':' :: cs)) =
        (readMembers? fuel r).map fun (ms, r) => ((k, j) :: ms, r)) := by
  have hquote : skipBlanks ('"' :: (k ++ '"' :: ':' :: cs)) = '"' :: (k ++ '"' :: ':' :: cs) := rfl
  have hcolon : skipBlanks (':' :: cs) = ':' :: cs := rfl
  have hbrace : skipBlanks ('}' :: r) = '}' :: r := rfl
  have hcomma : skipBlanks (',' :: r) = ',' :: r := rfl
  constructor
  · intro hj
    simp only [readMembers?, hquote, scanString?_plain hk, Option.bind_eq_bind, Option.bind_some,
      hcolon, hj, hbrace]
  · intro hj
    simp only [readMembers?, hquote, scanString?_plain hk, Option.bind_eq_bind, Option.bind_some,
      hcolon, hj, hcomma]

mutual
theorem readValue?_chars : ∀ (j : Json) (fuel : Nat) (rest : List Char), j.Written →
    2 * j.chars.length < fuel → Stops isNumberChar rest →
      readValue? fuel (j.chars ++ rest) = some (j, rest)
  | _, 0, _, _, hfuel, _ => absurd hfuel (Nat.not_lt_zero _)
  | null, fuel + 1, rest, _, _, _ => rfl
  | bool true, fuel + 1, rest, _, _, _ => rfl
  | bool false, fuel + 1, rest, _, _, _ => rfl
  | number lexeme, fuel + 1, rest, h, _, hrest => readValue?_number h hrest
  | string raw, fuel + 1, rest, h, _, _ => by
      have hscan : scanString? (raw ++ '"' :: rest) = some (raw, rest) := scanString?_plain h
      have hchars : (string raw).chars ++ rest = '"' :: (raw ++ '"' :: rest) := by
        simp [chars]
      have hread : readValue? (fuel + 1) ('"' :: (raw ++ '"' :: rest)) =
          (scanString? (raw ++ '"' :: rest)).map fun (raw, r) => (string raw, r) := rfl
      rw [hchars, hread, hscan]
      rfl
  | array [], fuel + 1, rest, _, _, _ => rfl
  | array (j :: js), fuel + 1, rest, h, hfuel, _ => by
      have hfuel : 2 * (itemsChars (j :: js)).length + 1 < fuel := by
        simp only [chars, List.length_append, List.length_cons, List.length_nil] at hfuel
        omega
      have hitems := readItems?_chars j js fuel rest h hfuel
      have hchars : (array (j :: js)).chars ++ rest =
          '[' :: (itemsChars (j :: js) ++ ']' :: rest) := by
        simp [chars]
      have hread : readValue? (fuel + 1) ('[' :: (itemsChars (j :: js) ++ ']' :: rest)) =
          match skipBlanks (itemsChars (j :: js) ++ ']' :: rest) with
          | ']' :: r => some (array [], r)
          | _ => (readItems? fuel (itemsChars (j :: js) ++ ']' :: rest)).map
              fun (items, r) => (array items, r) := rfl
      rw [hchars, hread]
      split
      · rename_i r heq
        rw [readItems?_bracket heq] at hitems
        cases hitems
      · rw [hitems]
        rfl
  | object [], fuel + 1, rest, _, _, _ => rfl
  | object ((k, j) :: ms), fuel + 1, rest, h, hfuel, _ => by
      have hfuel : 2 * (membersChars ((k, j) :: ms)).length + 1 < fuel := by
        simp only [chars, List.length_append, List.length_cons, List.length_nil] at hfuel
        omega
      have hmembers := readMembers?_chars k j ms fuel rest h hfuel
      obtain ⟨cs, hcs⟩ : ∃ cs, membersChars ((k, j) :: ms) = '"' :: cs := by
        cases ms <;> exact ⟨_, rfl⟩
      have hchars : (object ((k, j) :: ms)).chars ++ rest =
          '{' :: '"' :: (cs ++ '}' :: rest) := by
        simp [chars, hcs]
      have hread : readValue? (fuel + 1) ('{' :: '"' :: (cs ++ '}' :: rest)) =
          (readMembers? fuel ('"' :: cs ++ '}' :: rest)).map
              fun (members, r) => (object members, r) := rfl
      rw [hchars, hread, ← hcs, hmembers]
      rfl

theorem readItems?_chars : ∀ (j : Json) (js : List Json) (fuel : Nat) (rest : List Char),
    WrittenItems (j :: js) → 2 * (itemsChars (j :: js)).length + 1 < fuel →
      readItems? fuel (itemsChars (j :: js) ++ ']' :: rest) = some (j :: js, rest)
  | _, _, 0, _, _, hfuel => absurd hfuel (Nat.not_lt_zero _)
  | j, [], fuel + 1, rest, h, hfuel => by
      have hfuel : 2 * j.chars.length < fuel := by
        simp only [itemsChars] at hfuel
        omega
      have hj := readValue?_chars j fuel (']' :: rest) h.1 hfuel rfl
      have hchars : itemsChars [j] ++ ']' :: rest = j.chars ++ ']' :: rest := rfl
      rw [hchars, readItems?, hj]
      rfl
  | j, k :: ks, fuel + 1, rest, h, hfuel => by
      have hlength : (itemsChars (j :: k :: ks)).length =
          j.chars.length + 1 + (itemsChars (k :: ks)).length := by
        simp only [itemsChars, List.length_append, List.length_cons]
        omega
      have hj := readValue?_chars j fuel (',' :: (itemsChars (k :: ks) ++ ']' :: rest)) h.1
        (by omega) rfl
      have hks := readItems?_chars k ks fuel rest h.2 (by omega)
      have hchars : itemsChars (j :: k :: ks) ++ ']' :: rest =
          j.chars ++ ',' :: (itemsChars (k :: ks) ++ ']' :: rest) := by
        simp [itemsChars]
      have hread : readItems? (fuel + 1) (j.chars ++ ',' :: (itemsChars (k :: ks) ++ ']' :: rest)) =
          (readItems? fuel (itemsChars (k :: ks) ++ ']' :: rest)).map
            fun (js, r) => (j :: js, r) := by
        rw [readItems?, hj]
        rfl
      rw [hchars, hread, hks]
      rfl

theorem readMembers?_chars : ∀ (k : List Char) (j : Json) (ms : List (List Char × Json))
    (fuel : Nat) (rest : List Char), WrittenMembers ((k, j) :: ms) →
      2 * (membersChars ((k, j) :: ms)).length + 1 < fuel →
      readMembers? fuel (membersChars ((k, j) :: ms) ++ '}' :: rest) = some ((k, j) :: ms, rest)
  | _, _, _, 0, _, _, hfuel => absurd hfuel (Nat.not_lt_zero _)
  | k, j, [], fuel + 1, rest, h, hfuel => by
      have hlength : (membersChars [(k, j)]).length = k.length + 3 + j.chars.length := by
        simp only [membersChars, List.length_append, List.length_cons]
        omega
      have hj := readValue?_chars j fuel ('}' :: rest) h.2.1 (by omega) rfl
      have hchars : membersChars [(k, j)] ++ '}' :: rest =
          '"' :: (k ++ '"' :: ':' :: (j.chars ++ '}' :: rest)) := by
        simp [membersChars]
      rw [hchars, (readMembers?_member h.1).1 hj]
  | k, j, (l, i) :: ms, fuel + 1, rest, h, hfuel => by
      have hlength : (membersChars ((k, j) :: (l, i) :: ms)).length =
          k.length + 4 + j.chars.length + (membersChars ((l, i) :: ms)).length := by
        simp only [membersChars, List.length_append, List.length_cons]
        omega
      have hj := readValue?_chars j fuel (',' :: (membersChars ((l, i) :: ms) ++ '}' :: rest)) h.2.1
        (by omega) rfl
      have hms := readMembers?_chars l i ms fuel rest h.2.2 (by omega)
      have hchars : membersChars ((k, j) :: (l, i) :: ms) ++ '}' :: rest =
          '"' :: (k ++ '"' :: ':' ::
            (j.chars ++ ',' :: (membersChars ((l, i) :: ms) ++ '}' :: rest))) := by
        simp [membersChars]
      rw [hchars, (readMembers?_member h.1).2 hj, hms]
      rfl
end

/-- The text of a tree as it is written gives the tree. -/
theorem read?_chars {j : Json} (h : j.Written) : read? j.chars = some j := by
  have hread := readValue?_chars j (2 * j.chars.length + 2) [] h (by omega) trivial
  rw [List.append_nil] at hread
  rw [read?, hread]
  rfl

end SqlInterval.Json
