import GuidedDecoding.Decimal.Shortest

/-!
# Floating-point numbers in running text

In a message a number is written with its shortest digits and without an exponent, however long
that gets; a whole number has no point.
-/

namespace GuidedDecoding

namespace Decimal

/-- Digits with a point only where digits follow it. -/
def plain (d : Decimal) : String :=
  let (whole, fraction) := d.positional
  String.ofList (if fraction.isEmpty then whole else whole ++ '.' :: fraction)

end Decimal

/-- A sign in front of the text of a negative value. -/
def signed (negative : Bool) (text : String) : String := if negative then "-" ++ text else text

/-- The text of a bit pattern: `2`, `-0.0000001`, `NaN`, `inf`. -/
def BinaryValue.plain : BinaryValue → String
  | .nan => "NaN"
  | .infinite negative => signed negative "inf"
  | .zero negative => signed negative "0"
  | .finite negative magnitude => signed negative (magnitude.shortest .up).plain

/-- The text of a double in a message. -/
def plainText (x : Float) : String := (BinaryFormat.double.decode x.toBits.toNat).plain

end GuidedDecoding
