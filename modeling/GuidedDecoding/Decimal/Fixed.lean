import GuidedDecoding.Decimal.Shortest

/-!
# A fixed number of places

A value is written with a given number of digits after the point. It is rounded to the nearest
such number, and from the middle between two of them to the one whose last digit is even.
-/

namespace GuidedDecoding

/-- The natural number nearest to a quotient, of two the even one. -/
def roundedQuotient (num den : Nat) : Nat :=
  let whole := num / den
  match compare (2 * (num % den)) den with
  | .lt => whole
  | .gt => whole + 1
  | .eq => whole + whole % 2

/-- The number nearest to a value, in units of the last of some places. -/
def Dyadic.inUnits (x : Dyadic) (places : Nat) : Nat :=
  roundedQuotient (x.mantissa * Nat.pow 2 x.exponent.toNat * Nat.pow 10 places)
    (Nat.pow 2 (-x.exponent).toNat)

/-- Units of the last of some places as a number with a point. -/
def unitsText (places units : Nat) : String :=
  let digits := Nat.toDigits 10 units
  let padded := List.replicate (places + 1 - digits.length) '0' ++ digits
  let whole := padded.length - places
  String.ofList (padded.take whole ++ '.' :: padded.drop whole)

/-- The text of a double that is not negative, with a number of places. -/
def fixedText (places : Nat) (x : Float) : String :=
  match BinaryFormat.double.decode x.toBits.toNat with
  | .finite _ magnitude => unitsText places (magnitude.inUnits places)
  | _ => unitsText places 0

end GuidedDecoding
