import GuidedDecoding.Regex.Library
import GuidedDecoding.Regex.Matching
import GuidedDecoding.Regex.Meaning
import GuidedDecoding.Regex.Reader.Expression

/-!
# The library that is run

A text is an expression when it can be read and has a meaning. The meaning is matched as it stands,
so the program of an expression is the expression. How much room an expression takes and which
properties characters have is particular to this library.
-/

namespace GuidedDecoding

namespace Regex

/-- The expression that a text stands for. -/
def ofText? (text : String) : Option Regex :=
  (Written.parse text.toList).bind fun w => (w.meaning? {}).map Prod.fst

/-- Read a text as an expression. -/
def read (text : String) : Except String Regex :=
  match ofText? text with
  | some r => .ok r
  | none => .error "not a regular expression"

/-- The expression, if it takes no more room than the limit. -/
def build? (limit : Nat) (r : Regex) : Option Regex := if r.size ≤ limit then some r else none

instance library : RegexLibrary where
  Expr := Regex
  Program := Regex
  read
  build?
  defaultLimit := 10 * (1 <<< 20)
  isMatch

end Regex

end GuidedDecoding
