/-!
# Sets of code points

A set of code points is a list of ranges. Tables write their ranges in hexadecimal, several to a
line: `41-5A AA` is the range from `41` to `5A`, and the single code point `AA`.
-/

namespace GuidedDecoding

/-- A set of code points as ranges, both ends included. -/
structure CodePoints where
  ranges : List (Nat × Nat)
deriving DecidableEq

namespace CodePoints

/-- The value of a hexadecimal digit in upper case. -/
def digitValue (c : Char) : Nat :=
  if c.isDigit then c.toNat - '0'.toNat else c.toNat - 'A'.toNat + 10

/-- Finish the number that is being read: as the end of a range, or as a code point alone. -/
def close (start : Option Nat) (n : Nat) : Nat × Nat := (start.getD n, n)

/-- The ranges of a line, given the start of the range that is being read, and the number. -/
def readRanges : List Char → (start : Option Nat) → (n : Nat) → List (Nat × Nat)
  | [], start, n => [close start n]
  | c :: rest, start, n =>
    if c = ' ' then close start n :: readRanges rest none 0
    else if c = '-' then readRanges rest (some n) 0
    else readRanges rest start (n * 16 + digitValue c)

/-- The set that the lines of a table write out. -/
def ofLines (lines : List String) : CodePoints :=
  ⟨lines.flatMap fun line => readRanges line.toList none 0⟩

/-- What is in any of several sets. -/
def unions (sets : List CodePoints) : CodePoints := ⟨sets.flatMap ranges⟩

/-- Whether a character is in the set. -/
def contains (s : CodePoints) (c : Char) : Bool :=
  s.ranges.any fun r => r.1 ≤ c.toNat && c.toNat ≤ r.2

end CodePoints

end GuidedDecoding
