import GuidedDecoding.Toml.Entries
import GuidedDecoding.Toml.Reader.Lexical
import GuidedDecoding.Toml.Reader.Number

/-!
# Reading TOML documents

A document is read line by line into statements, and the statements define its entries. A text that
is no document is refused as a whole.
-/

namespace GuidedDecoding

namespace Toml

/-- What follows a word. -/
def word? (expected s : List Char) : Option (List Char) :=
  if expected.isPrefixOf s then some (s.drop expected.length) else none

mutual

/-- One value; `room` more arrays and inline tables may nest in it. -/
def value? (fuel room : Nat) (s : List Char) : Option (Value × List Char) :=
  match fuel with
  | 0 => none
  | fuel + 1 =>
    match s with
    | [] => none
    | c :: rest =>
      if c = '"' ∨ c = '\'' then (text? s).map (.text, ·)
      else if c = '[' then
        if room = 0 then none
        else (items? fuel (room - 1) rest).map fun (items, s) => (.array items, s)
      else if c = '{' then
        if room = 0 then none
        else do
          let (pairs, s) ← pairs? fuel (room - 1) rest
          return (.table .inline (← Entries.ofPairs? pairs), s)
      else if c = 't' then (word? ['t', 'r', 'u', 'e'] s).map (.boolean true, ·)
      else if c = 'f' then (word? ['f', 'a', 'l', 's', 'e'] s).map (.boolean false, ·)
      else numberOrMoment? s

/-- The items of an array up to its closing bracket. -/
def items? (fuel room : Nat) (s : List Char) : Option (List Value × List Char) :=
  match fuel with
  | 0 => none
  | fuel + 1 => do
    match ← skipLines (s.length + 1) s with
    | ']' :: s => return ([], s)
    | s =>
      let (item, s) ← value? fuel room s
      match ← skipLines (s.length + 1) s with
      | ']' :: s => return ([item], s)
      | ',' :: s =>
        let (rest, s) ← items? fuel room s
        return (item :: rest, s)
      | _ => none

/-- The entries of an inline table up to its closing brace. -/
def pairs? (fuel room : Nat) (s : List Char) : Option (List (List String × Value) × List Char) :=
  match fuel with
  | 0 => none
  | fuel + 1 =>
    match skipBlank s with
    | '\x7d' :: s => some ([], s)
    | s => morePairs? fuel room s

/-- The entries of an inline table up to its closing brace; there is at least one. -/
def morePairs? (fuel room : Nat) (s : List Char) :
    Option (List (List String × Value) × List Char) :=
  match fuel with
  | 0 => none
  | fuel + 1 => do
    let (key, s) ← key? s
    let s ← mark? '=' s
    let (value, s) ← value? fuel room (skipBlank s)
    match skipBlank s with
    | '\x7d' :: s => return ([(key, value)], s)
    | ',' :: s =>
      let (rest, s) ← morePairs? fuel room s
      return ((key, value) :: rest, s)
    | _ => none

end

/-- A key with its value, and what follows the line. -/
def definition? (s : List Char) : Option (Statement × List Char) := do
  let (key, s) ← key? s
  let s := skipBlank (← mark? '=' s)
  let (value, s) ← value? (2 * s.length + 2) (depthLimit - 1) s
  return (.define key value, ← restOfLine? s)

/-- A header after its first bracket, and what follows the line. -/
def header? : List Char → Option (Statement × List Char)
  | '[' :: s => do
    let (key, s) ← key? s
    let s ← mark? ']' (← mark? ']' s)
    return (.element key, ← restOfLine? s)
  | s => do
    let (key, s) ← key? s
    return (.table key, ← restOfLine? (← mark? ']' s))

/-- The statements of a text. -/
def statements? : (fuel : Nat) → List Char → Option (List Statement)
  | 0, _ => none
  | fuel + 1, s =>
    match skipBlank s with
    | [] => some []
    | '#' :: s => (restOfLine? ('#' :: s)).bind (statements? fuel)
    | '[' :: s => do
      let (header, s) ← header? s
      return header :: (← statements? fuel s)
    | c :: s =>
      if c = '\n' ∨ c = '\r' then (lineEnd? (c :: s)).bind (statements? fuel)
      else do
        let (definition, s) ← definition? (c :: s)
        return definition :: (← statements? fuel s)

/-- What follows the mark that a text may begin with. -/
def unmarked : List Char → List Char
  | '\uFEFF' :: s => s
  | s => s

/-- The entries of the document that a text holds. -/
def parse (text : String) : Option Entries :=
  let s := unmarked text.toList
  (statements? (s.length + 1) s).bind Entries.ofStatements?

end Toml

end GuidedDecoding
