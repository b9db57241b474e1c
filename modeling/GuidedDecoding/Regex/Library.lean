/-!
# Libraries of regular expressions

Patterns are compiled and matched by a library. It reads a text as an expression, makes of the
expression a program that takes no more room than a limit, and tells whether a program matches a
value. What is done with patterns further on holds for any library.
-/

namespace GuidedDecoding

/-- Why a text is not a usable regular expression: it cannot be read, or what is made of it takes
more bytes than a limit. -/
inductive RegexFault where
  | unreadable (reason : String)
  | tooLarge (limit : Nat)
deriving DecidableEq, Repr

namespace RegexFault

def message : RegexFault → String
  | .unreadable reason => reason
  | .tooLarge limit => s!"Compiled regex exceeds size limit of {limit} bytes."

end RegexFault

/-- A library of regular expressions. -/
class RegexLibrary where
  /-- What a text is read as. -/
  Expr : Type
  /-- What values are matched with. -/
  Program : Type
  /-- The expression that a text is, or what is wrong with the text. -/
  read : String → Except String Expr
  /-- The program of an expression, if it takes no more room than a limit. -/
  build? : Nat → Expr → Option Program
  /-- The limit where nothing else is said. -/
  defaultLimit : Nat
  /-- Whether some stretch of a value is matched. -/
  isMatch : Program → String → Bool

namespace RegexLibrary

variable [RegexLibrary]

/-- Compile a text within a limit. -/
def compileWithin (limit : Nat) (text : String) : Except RegexFault Program :=
  match read text with
  | .error reason => .error (.unreadable reason)
  | .ok e =>
    match build? limit e with
    | some p => .ok p
    | none => .error (.tooLarge limit)

/-- Compile a text. -/
def compile (text : String) : Except RegexFault Program := compileWithin defaultLimit text

end RegexLibrary

end GuidedDecoding
