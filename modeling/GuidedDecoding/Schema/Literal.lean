import GuidedDecoding.Schema.Basic

/-!
# Literal values of a type

A grammar that generates the value of a field emits text. `SchemaType.admits` says whether a text
may stand for a value of the field's type.

A number is an optional minus sign, digits without a needless zero in front, and then perhaps a
fraction and perhaps an exponent. Each part is recognised by a function that returns what follows
it.
-/

namespace GuidedDecoding

namespace NumberLiteral

/-- What follows an optional minus sign. -/
def afterSign : List Char → List Char
  | '-' :: rest => rest
  | cs => cs

/-- What follows one or more digits. -/
def afterDigits? : List Char → Option (List Char)
  | c :: rest => if c.isDigit then some (rest.dropWhile Char.isDigit) else none
  | [] => none

/-- What follows the digits before the point: a zero alone, or digits that start with another. -/
def afterWhole? : List Char → Option (List Char)
  | '0' :: rest => some rest
  | cs => afterDigits? cs

/-- What follows an optional fraction. -/
def afterFraction? : List Char → Option (List Char)
  | '.' :: rest => afterDigits? rest
  | cs => some cs

/-- What follows the optional sign of an exponent. -/
def afterExponentSign : List Char → List Char
  | '+' :: rest => rest
  | '-' :: rest => rest
  | cs => cs

/-- What follows an optional exponent. -/
def afterExponent? : List Char → Option (List Char)
  | 'e' :: rest => afterDigits? (afterExponentSign rest)
  | 'E' :: rest => afterDigits? (afterExponentSign rest)
  | cs => some cs

/-- What follows a number. -/
def after? (cs : List Char) : Option (List Char) :=
  ((afterWhole? (afterSign cs)).bind afterFraction?).bind afterExponent?

/-- Whether a whole text is a number. -/
def isNumber (cs : List Char) : Bool := after? cs == some []

/-- Whether a number is written with a point or an exponent. -/
def hasFractionMark (cs : List Char) : Bool := cs.any fun c => c == '.' || c == 'e' || c == 'E'

end NumberLiteral

namespace SchemaType

/-- Whether a text starts with one character and ends with another. -/
def enclosed (first last : Char) (cs : List Char) : Bool :=
  cs.head? == some first && cs.getLast? == some last

/-- Whether a text may stand for a value of the type. Of arrays and objects only the brackets
are looked at. -/
def admits : SchemaType → String → Bool
  | .string, _ => true
  | .number, s => NumberLiteral.isNumber s.toList
  | .integer, s => NumberLiteral.isNumber s.toList && !NumberLiteral.hasFractionMark s.toList
  | .boolean, s => s == "true" || s == "false"
  | .null, s => s == "null"
  | .array _, s => enclosed '[' ']' s.toList
  | .object _, s => enclosed '\x7b' '\x7d' s.toList

end SchemaType

end GuidedDecoding
