import GuidedDecoding.Text.Property

/-!
# Quoted text in messages

A message shows a text or a character between quotes in such a way that nothing in it can be
mistaken: what cannot be seen, or would join the character before it, is written as its number.
-/

namespace GuidedDecoding

namespace Text

/-- Characters that cannot be seen; of the spaces only the plain one can. -/
def unseen : CodePoints := .unions [others, spaceSeparators, lineSeparators, paragraphSeparators]

/-- Whether a character is written as its number. -/
def isHidden (c : Char) : Bool :=
  c ≠ ' ' && (unseen.contains c || graphemeExtenders.contains c)

/-- A character as its number in hexadecimal. -/
def numbered (c : Char) : List Char :=
  ['\\', 'u', '\x7b'] ++ Nat.toDigits 16 c.toNat ++ ['\x7d']

/-- How a character stands between quotes of a given kind. -/
def quotedChar (quote c : Char) : List Char :=
  if c == '\x00' then ['\\', '0']
  else if c == '\t' then ['\\', 't']
  else if c == '\r' then ['\\', 'r']
  else if c == '\n' then ['\\', 'n']
  else if c == quote || c == '\\' then ['\\', c]
  else if c.toNat < 0x7F && 0x20 ≤ c.toNat then [c]
  else if isHidden c then numbered c
  else [c]

/-- A text between double quotes. -/
def quoted (s : String) : String :=
  String.ofList ('"' :: s.toList.flatMap (quotedChar '"') ++ ['"'])

/-- A character between single quotes. -/
def quotedOne (c : Char) : String := String.ofList ('\'' :: quotedChar '\'' c ++ ['\''])

end Text

end GuidedDecoding
