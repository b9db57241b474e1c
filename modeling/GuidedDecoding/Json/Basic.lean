/-!
# JSON documents

A document is kept as it was written: the fields of an object stay in order and may repeat, and
a number keeps its digits until something asks for its value. A value that is well formed as text
but that no reader can take, such as a string with half of a surrogate pair, is `unreadable`; it
may stand where nobody looks at it.

`Json.render` is the compact form, without blanks.
-/

namespace GuidedDecoding

/-- A number as it is written. The exponent is a sign (`true` for minus) and its digits. -/
structure Numeral where
  negative : Bool
  whole : List Char
  fraction : Option (List Char)
  exponent : Option (Bool × List Char)
deriving DecidableEq, Repr

/-- A JSON document. -/
inductive Json where
  | null
  | bool (value : Bool)
  | num (value : Numeral)
  | str (value : String)
  | arr (items : List Json)
  | obj (fields : List (String × Json))
  | unreadable
deriving Inhabited, Repr

namespace Numeral

/-- A natural number, written in digits. -/
def ofNat (n : Nat) : Numeral := ⟨false, Nat.toDigits 10 n, none, none⟩

/-- The text of a number; an exponent always has its sign. -/
def chars (n : Numeral) : List Char :=
  (if n.negative then ['-'] else []) ++ n.whole
    ++ (match n.fraction with
        | some digits => '.' :: digits
        | none => [])
    ++ (match n.exponent with
        | some (minus, digits) => 'e' :: (if minus then '-' else '+') :: digits
        | none => [])

end Numeral

namespace Json

/-- The number as a document. -/
def nat (n : Nat) : Json := .num (.ofNat n)

/-- A list of strings. -/
def strings (l : List String) : Json := .arr (l.map .str)

/-- `null` where there is nothing. -/
def orNull {α : Type} (toJson : α → Json) : Option α → Json
  | some a => toJson a
  | none => .null

/-- One digit of a hexadecimal number, in lower case. -/
def hexDigit (n : Nat) : Char := Nat.digitChar (n % 16)

/-- How a character stands between quotes: quotes, backslashes and control characters are
escaped, and all else stands for itself. -/
def escaped (c : Char) : List Char :=
  if c == '"' then ['\\', '"']
  else if c == '\\' then ['\\', '\\']
  else if c.val < 0x20 then
    match c.val with
    | 0x08 => ['\\', 'b']
    | 0x09 => ['\\', 't']
    | 0x0a => ['\\', 'n']
    | 0x0c => ['\\', 'f']
    | 0x0d => ['\\', 'r']
    | v => ['\\', 'u', '0', '0', hexDigit (v.toNat / 16), hexDigit v.toNat]
  else [c]

/-- A string between quotes. -/
def quoted (s : List Char) : List Char := '"' :: s.flatMap escaped ++ ['"']

mutual

/-- The text of a document. -/
def chars : Json → List Char
  | .null => ['n', 'u', 'l', 'l']
  | .bool true => ['t', 'r', 'u', 'e']
  | .bool false => ['f', 'a', 'l', 's', 'e']
  | .num n => n.chars
  | .str s => quoted s.toList
  | .arr items => '[' :: itemChars items
  | .obj fields => '{' :: fieldChars fields
  | .unreadable => []

/-- The items of an array with commas between them, and the closing bracket. -/
def itemChars : List Json → List Char
  | [] => [']']
  | [item] => item.chars ++ [']']
  | item :: rest => item.chars ++ ',' :: itemChars rest

/-- The fields of an object with commas between them, and the closing brace. -/
def fieldChars : List (String × Json) → List Char
  | [] => ['}']
  | [(name, value)] => quoted name.toList ++ ':' :: (value.chars ++ ['}'])
  | (name, value) :: rest => quoted name.toList ++ ':' :: (value.chars ++ ',' :: fieldChars rest)

end

/-- The compact text of a document. -/
def render (doc : Json) : String := String.ofList doc.chars

mutual

/-- How deep containers nest. -/
def depth : Json → Nat
  | .arr items => itemsDepth items + 1
  | .obj fields => fieldsDepth fields + 1
  | _ => 0

/-- The greatest depth of some items. -/
def itemsDepth : List Json → Nat
  | [] => 0
  | item :: rest => max item.depth (itemsDepth rest)

/-- The greatest depth of the values of some fields. -/
def fieldsDepth : List (String × Json) → Nat
  | [] => 0
  | (_, value) :: rest => max value.depth (fieldsDepth rest)

end

end Json

end GuidedDecoding
