/-!
# The shortest decimal that reads back

A positive binary floating-point value is `mantissa * 2 ^ exponent`. The reals that round to it
form an interval around it, which holds its end points exactly when the mantissa is even.
`shortest` answers the decimal with the fewest digits in that interval, and of two such decimals
the nearer one. All arithmetic is on natural numbers, so nothing is lost on the way.
-/

namespace GuidedDecoding

/-- The number `significand * 10 ^ exponent`. -/
structure Decimal where
  significand : Nat
  exponent : Int
deriving DecidableEq, Repr

/-- What decides between two decimals that lie equally far from the value. -/
inductive Tie where
  | toEven
  | up
deriving DecidableEq

/-- A positive value `mantissa * 2 ^ exponent`. The gap to the next smaller value is half the gap
to the next larger one when `narrow` holds, as it is at a power of two. -/
structure Dyadic where
  mantissa : Nat
  exponent : Int
  narrow : Bool

namespace Dyadic

/-- The value as a quotient of natural numbers, in quarters of the unit of the last place. -/
def quarters (x : Dyadic) : Nat × Nat :=
  let shift := x.exponent - 2
  if 0 ≤ shift then (Nat.pow 2 shift.toNat, 1) else (1, Nat.pow 2 (-shift).toNat)

/-- The number of digits of a natural number. -/
def digitCount (n : Nat) : Nat := (Nat.toDigits 10 n).length

/-- The power of ten just above the value: `10 ^ (top - 1) ≤ x < 10 ^ top`. -/
def top (x : Dyadic) : Int :=
  let (scale, den) := x.quarters
  let num := 4 * x.mantissa * scale
  if den ≤ num then digitCount (num / den)
  else 1 - digitCount ((den - 1) / num)

/-- Compare `a * 10 ^ g` with `n` quarters of the last place. -/
def compareAt (x : Dyadic) (a : Nat) (g : Int) (n : Nat) : Ordering :=
  let (scale, den) := x.quarters
  compare (a * Nat.pow 10 g.toNat * den) (n * scale * Nat.pow 10 (-g).toNat)

/-- Whether `a * 10 ^ g` rounds to the value. -/
def rounds (x : Dyadic) (a : Nat) (g : Int) : Bool :=
  let low := 4 * x.mantissa - (if x.narrow then 1 else 2)
  let high := 4 * x.mantissa + 2
  let closed := x.mantissa % 2 == 0
  match x.compareAt a g low, x.compareAt a g high with
  | .gt, .lt => true
  | .eq, .lt => closed
  | .gt, .eq => closed
  | _, _ => false

/-- The largest multiple of `10 ^ g` that is not above the value, as a factor. -/
def floorAt (x : Dyadic) (g : Int) : Nat :=
  let (scale, den) := x.quarters
  (4 * x.mantissa * scale * Nat.pow 10 (-g).toNat) / (den * Nat.pow 10 g.toNat)

/-- The decimal of the grid `10 ^ g` that rounds to the value, if there is one: of the two
neighbours of the value on that grid the nearer. -/
def onGrid? (x : Dyadic) (tie : Tie) (g : Int) : Option Nat :=
  let below := x.floorAt g
  let above := below + 1
  match x.rounds below g, x.rounds above g with
  | true, false => some below
  | false, true => some above
  | false, false => none
  | true, true =>
    -- The mid-point `below + 1/2` is `5 * (2 * below + 1)` on the next finer grid.
    match x.compareAt (5 * (2 * below + 1)) (g - 1) (4 * x.mantissa) with
    | .gt => some below
    | .lt => some above
    | .eq =>
      match tie with
      | .up => some above
      | .toEven => some (if below % 2 == 0 then below else above)

/-- Move the zeros at the end of a significand into the exponent. -/
def trim : Nat → Nat → Int → Decimal
  | 0, a, g => ⟨a, g⟩
  | fuel + 1, a, g => if a % 10 == 0 then trim fuel (a / 10) (g + 1) else ⟨a, g⟩

/-- Try the grids with one digit, two digits and so on. -/
def search (x : Dyadic) (tie : Tie) (top : Int) : Nat → Nat → Decimal
  | 0, digits => ⟨x.floorAt (top - digits), top - digits⟩
  | fuel + 1, digits =>
    match x.onGrid? tie (top - digits) with
    | some a => trim digits a (top - digits)
    | none => search x tie top fuel (digits + 1)

/-- The decimal with the fewest digits that rounds to the value. Seventeen digits always do. -/
def shortest (x : Dyadic) (tie : Tie) : Decimal := search x tie x.top 17 1

end Dyadic

/-- The layout of a binary format: the bits of its fraction and of its exponent. -/
structure BinaryFormat where
  fractionBits : Nat
  exponentBits : Nat

/-- What a bit pattern stands for. -/
inductive BinaryValue where
  | nan
  | infinite (negative : Bool)
  | zero (negative : Bool)
  | finite (negative : Bool) (magnitude : Dyadic)

namespace BinaryFormat

/-- Double precision. -/
def double : BinaryFormat := ⟨52, 11⟩

/-- Single precision. -/
def single : BinaryFormat := ⟨23, 8⟩

/-- Take a bit pattern apart. -/
def decode (f : BinaryFormat) (bits : Nat) : BinaryValue :=
  let fraction := bits % Nat.pow 2 f.fractionBits
  let biased := bits / Nat.pow 2 f.fractionBits % Nat.pow 2 f.exponentBits
  let negative := bits / Nat.pow 2 (f.fractionBits + f.exponentBits) % 2 == 1
  let last := Nat.pow 2 f.exponentBits - 1
  let least : Int := 2 - Int.pow 2 (f.exponentBits - 1) - f.fractionBits
  if biased == last then
    if fraction == 0 then .infinite negative else .nan
  else if biased == 0 then
    if fraction == 0 then .zero negative else .finite negative ⟨fraction, least, false⟩
  else
    .finite negative
      ⟨Nat.pow 2 f.fractionBits + fraction, least + (biased - 1), fraction == 0 && biased != 1⟩

end BinaryFormat

namespace Decimal

/-- The digits before and after the point, when the decimal is written without an exponent. -/
def positional (d : Decimal) : List Char × List Char :=
  let digits := Nat.toDigits 10 d.significand
  if 0 ≤ d.exponent then (digits ++ List.replicate d.exponent.toNat '0', [])
  else
    let places := (-d.exponent).toNat
    if places < digits.length then
      (digits.take (digits.length - places), digits.drop (digits.length - places))
    else (['0'], List.replicate (places - digits.length) '0' ++ digits)

/-- The power of ten of the leading digit. -/
def magnitude (d : Decimal) : Int := d.exponent + Dyadic.digitCount d.significand - 1

end Decimal

end GuidedDecoding
