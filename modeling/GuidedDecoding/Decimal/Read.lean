/-!
# Reading a double from running text

A number may have a sign, a point with digits on either side of it, and an exponent; `inf`,
`infinity` and `nan` are read in any case. The value is the double nearest to what is written.
-/

namespace GuidedDecoding

namespace Decimal

/-- The value of some digits after what has been read already. -/
def accumulate (n : Nat) (digits : List Char) : Nat :=
  digits.foldl (fun n c => n * 10 + (c.toNat - '0'.toNat)) n

/-- A power of ten that takes every double past its range. -/
def farAway : Int := 400

/-- The double nearest to `significand * 10 ^ exponent`. -/
def nearest (significand : Nat) (exponent : Int) : Float :=
  let magnitude := exponent + (Nat.toDigits 10 significand).length
  if significand == 0 ∨ magnitude < -farAway then 0.0
  else if farAway < magnitude then 1.0 / 0.0
  else .ofScientific significand (exponent < 0) exponent.natAbs

/-- The exponent of a number: nothing, or a mark, a sign and digits. -/
def exponent? : List Char → Option Int
  | [] => some 0
  | c :: s =>
    if c == 'e' || c == 'E' then
      let (minus, digits) := match s with
        | '-' :: s => (true, s)
        | '+' :: s => (false, s)
        | s => (false, s)
      if digits.isEmpty || !digits.all Char.isDigit then none
      else some (if minus then -accumulate 0 digits else accumulate 0 digits)
    else none

/-- A number without a sign. -/
def magnitude? (s : List Char) : Option Float :=
  let whole := s.takeWhile Char.isDigit
  let rest := s.dropWhile Char.isDigit
  let (fraction, rest) := match rest with
    | '.' :: rest => (rest.takeWhile Char.isDigit, rest.dropWhile Char.isDigit)
    | rest => ([], rest)
  if whole.isEmpty && fraction.isEmpty then none
  else (exponent? rest).map fun e =>
    nearest (accumulate 0 (whole ++ fraction)) (e - fraction.length)

/-- A word for what is not a finite number. -/
def word? (s : List Char) : Option Float :=
  let lower := String.ofList (s.map Char.toLower)
  if lower == "inf" || lower == "infinity" then some (1.0 / 0.0)
  else if lower == "nan" then some (0.0 / 0.0)
  else none

/-- A number with its sign. -/
def readDouble? (text : String) : Option Float :=
  let (minus, s) := match text.toList with
    | '-' :: s => (true, s)
    | '+' :: s => (false, s)
    | s => (false, s)
  (word? s <|> magnitude? s).map fun x => if minus then -x else x

end Decimal

end GuidedDecoding
