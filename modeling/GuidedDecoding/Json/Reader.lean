import GuidedDecoding.Json.Basic

/-!
# Reading JSON text

The reader takes one document from the front of a list of characters and answers the rest.
Between tokens it skips space, tab, line feed and carriage return, and nothing else. Text that
is not JSON is refused as a whole. Containers that nest deeper than `Json.depthLimit` and strings
with half of a surrogate pair are `unreadable`.
-/

namespace GuidedDecoding

namespace Json

/-- Containers nest at most this deep. -/
def depthLimit : Nat := 127

/-- The blanks between tokens. -/
def isBlank (c : Char) : Bool := c == ' ' || c == '\t' || c == '\n' || c == '\r'

/-- Drop the blanks in front. -/
def skipBlank (s : List Char) : List Char := s.dropWhile isBlank

/-- The digits in front, and what follows them. -/
def digits (s : List Char) : List Char × List Char :=
  (s.takeWhile Char.isDigit, s.dropWhile Char.isDigit)

/-- At least one digit. -/
def digits1 (s : List Char) : Option (List Char × List Char) :=
  match digits s with
  | ([], _) => none
  | found => some found

/-- The digits after a point, where there is one. -/
def fractionPart : List Char → Option (Option (List Char) × List Char)
  | '.' :: s => (digits1 s).map fun (d, rest) => (some d, rest)
  | s => some (none, s)

/-- The digits of an exponent, where there is one, with its sign. -/
def exponentPart : List Char → Option (Option (Bool × List Char) × List Char)
  | [] => some (none, [])
  | c :: s =>
    if c == 'e' || c == 'E' then
      match s with
      | '-' :: s => (digits1 s).map fun (d, rest) => (some (true, d), rest)
      | '+' :: s => (digits1 s).map fun (d, rest) => (some (false, d), rest)
      | s => (digits1 s).map fun (d, rest) => (some (false, d), rest)
    else some (none, c :: s)

/-- The digits before the point: a zero stands alone. -/
def wholePart : List Char → Option (List Char × List Char)
  | '0' :: s => some (['0'], s)
  | s => digits1 s

/-- A number after its sign. -/
def unsignedNumeral (negative : Bool) (s : List Char) : Option (Numeral × List Char) := do
  let (whole, s) ← wholePart s
  let (fraction, s) ← fractionPart s
  let (exponent, s) ← exponentPart s
  return (⟨negative, whole, fraction, exponent⟩, s)

/-- A number. -/
def numeral : List Char → Option (Numeral × List Char)
  | '-' :: s => unsignedNumeral true s
  | s => unsignedNumeral false s

/-- The value of a hexadecimal digit in either case. -/
def hexValue? (c : Char) : Option Nat :=
  if c.isDigit then some (c.toNat - '0'.toNat)
  else if 'a' ≤ c ∧ c ≤ 'f' then some (c.toNat - 'a'.toNat + 10)
  else if 'A' ≤ c ∧ c ≤ 'F' then some (c.toNat - 'A'.toNat + 10)
  else none

/-- The number that four hexadecimal digits stand for. -/
def codeUnit? (a b c d : Char) : Option Nat := do
  return (((← hexValue? a) * 16 + (← hexValue? b)) * 16 + (← hexValue? c)) * 16 + (← hexValue? d)

/-- A code unit that opens a surrogate pair. -/
def isHigh (u : Nat) : Bool := 0xD800 ≤ u && u < 0xDC00

/-- A code unit that closes a surrogate pair. -/
def isLow (u : Nat) : Bool := 0xDC00 ≤ u && u < 0xE000

/-- The character that a surrogate pair stands for. -/
def pairChar (high low : Nat) : Char := .ofNat (0x10000 + (high - 0xD800) * 0x400 + (low - 0xDC00))

/-- The character of a one-letter escape. -/
def shortEscape? : Char → Option Char
  | '"' => some '"'
  | '\\' => some '\\'
  | '/' => some '/'
  | 'b' => some '\x08'
  | 'f' => some '\x0c'
  | 'n' => some '\n'
  | 'r' => some '\r'
  | 't' => some '\t'
  | _ => none

/-- The next piece of a string literal. -/
inductive Piece where
  | char (c : Char)
  | lone
  | close

/-- Take one piece of a string literal off the front: a character, an escape, the closing quote,
or an escape that names half of a surrogate pair. -/
def piece : List Char → Option (Piece × List Char)
  | [] => none
  | '"' :: s => some (.close, s)
  | '\\' :: 'u' :: a :: b :: c :: d :: s => do
    let u ← codeUnit? a b c d
    if isHigh u then
      match s with
      | '\\' :: 'u' :: a :: b :: c :: d :: r =>
        match codeUnit? a b c d with
        | some low => if isLow low then some (.char (pairChar u low), r) else some (.lone, s)
        | none => some (.lone, s)
      | _ => some (.lone, s)
    else if isLow u then some (.lone, s)
    else some (.char (.ofNat u), s)
  | '\\' :: c :: s => (shortEscape? c).map fun c => (.char c, s)
  | c :: s => if c.val < 0x20 || c == '\\' then none else some (.char c, s)

/-- The rest of a string literal after its opening quote. The text is missing when a surrogate
stands alone. -/
def literal : Nat → List Char → Option (Option (List Char) × List Char)
  | 0, _ => none
  | fuel + 1, s => do
    match ← piece s with
    | (.close, s) => return (some [], s)
    | (.lone, s) => return (none, (← literal fuel s).2)
    | (.char c, s) =>
      let (text, s) ← literal fuel s
      return (text.map (c :: ·), s)

/-- A container is readable only within the limit. -/
def within (room : Nat) (doc : Json) : Json := if room == 0 then .unreadable else doc

/-- The rest of a text after a word. -/
def word (expected : List Char) (doc : Json) (s : List Char) : Option (Json × List Char) :=
  if expected.isPrefixOf s then some (doc, s.drop expected.length) else none

mutual

/-- One document in front of a text; `room` more containers may nest in it. -/
def value (fuel room : Nat) (s : List Char) : Option (Json × List Char) :=
  match fuel with
  | 0 => none
  | fuel + 1 =>
    match skipBlank s with
    | '"' :: s => do
      let (text, s) ← literal fuel s
      return (match text with
        | some text => .str (String.ofList text)
        | none => .unreadable, s)
    | '[' :: s =>
      match skipBlank s with
      | ']' :: s => some (within room (.arr []), s)
      | s => do
        let (items, s) ← items fuel (room - 1) s
        return (within room (.arr items), s)
    | '{' :: s =>
      match skipBlank s with
      | '}' :: s => some (within room (.obj []), s)
      | s => do
        let (fields, s) ← fields fuel (room - 1) s
        return (match fields with
          | some fields => within room (.obj fields)
          | none => .unreadable, s)
    | 'n' :: s => word ['u', 'l', 'l'] .null s
    | 't' :: s => word ['r', 'u', 'e'] (.bool true) s
    | 'f' :: s => word ['a', 'l', 's', 'e'] (.bool false) s
    | s => (numeral s).map fun (n, rest) => (.num n, rest)

/-- The items of an array up to its closing bracket; there is at least one. -/
def items (fuel room : Nat) (s : List Char) : Option (List Json × List Char) :=
  match fuel with
  | 0 => none
  | fuel + 1 => do
    let (item, s) ← value fuel room s
    match skipBlank s with
    | ']' :: s => return ([item], s)
    | ',' :: s =>
      let (rest, s) ← items fuel room s
      return (item :: rest, s)
    | _ => none

/-- The fields of an object up to its closing brace; there is at least one. They are missing when
the name of one of them is unreadable. -/
def fields (fuel room : Nat) (s : List Char) : Option (Option (List (String × Json)) × List Char) :=
  match fuel with
  | 0 => none
  | fuel + 1 =>
    match skipBlank s with
    | '"' :: s => do
      let (name, s) ← literal fuel s
      match skipBlank s with
      | ':' :: s =>
        let (content, s) ← value fuel room s
        let field := name.map fun name => (String.ofList name, content)
        match skipBlank s with
        | '}' :: s => return (field.map fun field => [field], s)
        | ',' :: s =>
          let (rest, s) ← fields fuel room s
          return (field.bind fun field => rest.map (field :: ·), s)
        | _ => none
      | _ => none
    | _ => none

end

/-- The one document that a text holds, with blanks around it at most. -/
def ofChars? (s : List Char) : Option Json :=
  match value (s.length + 1) depthLimit s with
  | some (doc, rest) => if (skipBlank rest).isEmpty then some doc else none
  | none => none

/-- The document that a text holds. -/
def parse (text : String) : Option Json := ofChars? text.toList

end Json

end GuidedDecoding
