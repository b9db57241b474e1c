import GuidedDecoding.Json.Basic
import GuidedDecoding.Decimal.Shortest

/-!
# Numbers in JSON documents

Whole numbers are read exactly. A number with a fraction or an exponent is read as a double: the
leading digits that fit a 64-bit word are scaled by one power of ten, and the digits beyond them
only count as places. A number whose magnitude no double holds cannot be read.

Doubles are written with their shortest digits: positionally from `0.00001` up to below `10 ^ 16`,
and otherwise with an exponent that carries its sign.
-/

namespace GuidedDecoding

/-- The largest whole number that is kept exact. -/
def wordLimit : Nat := UInt64.size

/-- The value of some digits. -/
def digitsValue (digits : List Char) : Nat :=
  digits.foldl (fun n c => n * 10 + (c.toNat - '0'.toNat)) 0

/-- A word to which digits are appended until one does not fit: the word, and the digits left. -/
def appendDigits : Nat → List Char → Nat × List Char
  | word, [] => (word, [])
  | word, c :: rest =>
    let next := word * 10 + (c.toNat - '0'.toNat)
    if next < wordLimit then appendDigits next rest else (word, c :: rest)

namespace Numeral

/-- A whole number within 64 bits and without a sign. -/
def toNat? (n : Numeral) : Option Nat :=
  match n.negative, n.fraction, n.exponent with
  | false, none, none =>
    let value := digitsValue n.whole
    if value < wordLimit then some value else none
  | _, _, _ => none

/-- The significand and the power of ten that the digits before an exponent stand for. -/
def significand (n : Numeral) : Nat × Int :=
  let (word, dropped) := appendDigits 0 n.whole
  match n.fraction with
  | none => (word, dropped.length)
  | some digits =>
    let (word, rest) := appendDigits word digits
    (word, (dropped.length : Int) - (digits.length - rest.length : Nat))

/-- The largest power of ten that a double holds. -/
def largestPower : Nat := 308

/-- A power of ten as a double, rounded to nearest. -/
def powerOfTen (n : Nat) : Float := .ofScientific 1 false n

/-- Multiply or divide by a power of ten in one rounding, or in steps when the power is out of
range. Missing when the result has no finite value. -/
def scale : Nat → Float → Int → Option Float
  | 0, _, _ => none
  | fuel + 1, x, exponent =>
    if exponent.natAbs ≤ largestPower then
      if 0 ≤ exponent then
        let y := x * powerOfTen exponent.natAbs
        if y.isInf then none else some y
      else some (x / powerOfTen exponent.natAbs)
    else if x == 0.0 then some x
    else if 0 ≤ exponent then none
    else scale fuel (x / powerOfTen largestPower) (exponent + largestPower)

/-- The exponent as a number; the digits of one beyond 31 bits are not kept. -/
def exponentValue? (digits : List Char) : Option Nat :=
  let value := digitsValue digits
  if value < 1 <<< 31 then some value else none

/-- An exponent clamped to 32 bits. -/
def clamp (e : Int) : Int := max (-0x80000000) (min e 0x7FFFFFFF)

/-- The magnitude of a number that has a fraction or an exponent, or that 64 bits do not hold. -/
def magnitude? (n : Numeral) : Option Float :=
  let (word, places) := n.significand
  let x := word.toUInt64.toFloat
  match n.exponent with
  | none => scale 8 x places
  | some (minus, digits) =>
    match exponentValue? digits with
    | some e => scale 8 x (clamp (if minus then places - e else places + e))
    | none => if word == 0 || minus then some 0.0 else none

/-- The value of a number as a double. -/
def toFloat? (n : Numeral) : Option Float :=
  n.magnitude?.map fun x => if n.negative then -x else x

/-- Whether the number is written without a fraction and without an exponent. -/
def isWhole (n : Numeral) : Bool := n.fraction.isNone && n.exponent.isNone

/-- The value of a number in single precision. Whole numbers within 64 bits are rounded once,
all others by way of double precision. -/
def toFloat32? (n : Numeral) : Option Float32 :=
  let value := digitsValue n.whole
  if n.isWhole && !n.negative && value < wordLimit then some value.toUInt64.toFloat32
  else if n.isWhole && n.negative && 0 < value && value ≤ 1 <<< 63 then
    some (-value.toUInt64.toFloat32)
  else n.toFloat?.map Float.toFloat32

/-- A decimal as a number in a document. -/
def ofDecimal (negative : Bool) (d : Decimal) : Numeral :=
  let magnitude := d.magnitude
  if -5 ≤ magnitude ∧ magnitude < 16 then
    let (whole, fraction) := d.positional
    ⟨negative, whole, some (if fraction.isEmpty then ['0'] else fraction), none⟩
  else
    let digits := Nat.toDigits 10 d.significand
    let fraction := digits.drop 1
    ⟨negative, digits.take 1, if fraction.isEmpty then none else some fraction,
      some (magnitude < 0, Nat.toDigits 10 magnitude.natAbs)⟩

end Numeral

namespace Json

/-- A bit pattern as a document: what is not a finite number is `null`. -/
def ofBinary : BinaryValue → Json
  | .nan => .null
  | .infinite _ => .null
  | .zero negative => .num ⟨negative, ['0'], some ['0'], none⟩
  | .finite negative magnitude => .num (.ofDecimal negative (magnitude.shortest .toEven))

/-- A double as a document. -/
def ofDouble (x : Float) : Json := ofBinary (BinaryFormat.double.decode x.toBits.toNat)

/-- A single as a document. -/
def ofSingle (x : Float32) : Json := ofBinary (BinaryFormat.single.decode x.toBits.toNat)

end Json

end GuidedDecoding
