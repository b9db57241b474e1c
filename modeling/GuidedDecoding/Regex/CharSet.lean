import GuidedDecoding.Text.CodePoints
import GuidedDecoding.Text.Folding

/-!
# Sets of characters

A set is kept as the expression that it was built from, and `CharSet.contains` says what is in it.
-/

namespace GuidedDecoding

/-- A set of characters. -/
inductive CharSet where
  | none
  | range (first last : Char)
  | points (s : CodePoints)
  | union (s t : CharSet)
  | inter (s t : CharSet)
  | compl (s : CharSet)
  | folded (ascii : Bool) (s : CharSet)

namespace CharSet

/-- Whether a character is in the set. A folded set also has what differs only in case from one of
its members, perhaps only where both are ASCII letters. -/
def contains : CharSet → Char → Bool
  | .none, _ => false
  | .range first last, c => first ≤ c && c ≤ last
  | .points s, c => s.contains c
  | .union s t, c => s.contains c || t.contains c
  | .inter s t, c => s.contains c && t.contains c
  | .compl s, c => !s.contains c
  | .folded ascii s, c =>
    s.contains c || (if ascii then Text.asciiVariants c else Text.caseVariants c).any s.contains

/-- The set of one character. -/
def one (c : Char) : CharSet := .range c c

/-- The set of all characters. -/
def all : CharSet := .compl .none

/-- What is in one set but not in the other. -/
def diff (s t : CharSet) : CharSet := .inter s (.compl t)

/-- What is in exactly one of two sets. -/
def symmDiff (s t : CharSet) : CharSet := .union (s.diff t) (t.diff s)

/-- The members of any of several sets. -/
def unions (sets : List CharSet) : CharSet := sets.foldr .union .none

/-- The code points that are encoded in one, two, three and four bytes. -/
def encodings : List (Nat × Nat × Nat) :=
  [(1, 0, 0x7F), (2, 0x80, 0x7FF), (3, 0x800, 0xFFFF), (4, 0x10000, 0x10FFFF)]

/-- How many bytes the encodings of a range have, counted once for each of their lengths. -/
def bytesOfRange (first last : Nat) : Nat :=
  encodings.foldl
    (fun n (bytes, low, high) => if first ≤ high ∧ low ≤ last then n + bytes else n) 0

/-- The room that one state takes, in bytes. -/
def stateSize : Nat := 32

/-- The room that one range of a table takes, in bytes. Ranges of a table share most of their
states. -/
def tableRangeSize : Nat := 20

/-- The room that a set takes, in bytes: a state for each byte of the encodings of its ranges. -/
def size : CharSet → Nat
  | .none => 0
  | .range first last => stateSize * bytesOfRange first.toNat last.toNat
  | .points s => tableRangeSize * s.ranges.length
  | .union s t => s.size + t.size
  | .inter s t => s.size + t.size
  | .compl s => s.size + stateSize * bytesOfRange 0 0x10FFFF
  | .folded _ s => 2 * s.size

end CharSet

end GuidedDecoding
