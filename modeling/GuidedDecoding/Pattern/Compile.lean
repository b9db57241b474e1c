import GuidedDecoding.Error.Compile
import GuidedDecoding.Pattern.Basic
import GuidedDecoding.Regex.Library
import GuidedDecoding.Text.Blank

/-!
# Compiling patterns on fields

Each constraint puts one pattern on one field. The pattern is wrapped so that it has to span the
value, and has to be a regular expression within a size limit when it is wrapped.
-/

namespace GuidedDecoding

variable [RegexLibrary]

namespace NamedPattern

/-- The pattern that a constraint puts on a field. -/
def ofConstraint (sizeLimit : Nat) (c : Constraint) : Except CompileError NamedPattern :=
  match c.payload with
  | .regex field pattern =>
    if Text.allBlank field then .error (.invalidConstraint c.id "regex constraint names no field")
    else if pattern.isEmpty then .error (.invalidPattern c.id pattern "empty pattern")
    else
      match RegexLibrary.compileWithin sizeLimit (anchored pattern) with
      | .error fault => .error (.invalidPattern c.id pattern fault.message)
      | .ok _ => .ok ⟨field, anchored pattern, pattern, c.id⟩
  | _ => .error (.invalidConstraint c.id "regex constraint without a regex payload")

end NamedPattern

namespace PatternSet

/-- The patterns of the constraints that are enforced by one, if there are any. -/
def ofConstraints (sizeLimit : Nat) (constraints : List Constraint) :
    Except CompileError (Option PatternSet) :=
  match constraints.filter fun c => c.enforcement = .regex with
  | [] => .ok none
  | targeted => (targeted.mapM (NamedPattern.ofConstraint sizeLimit)).map fun l => some ⟨l⟩

/-- The program of every pattern, with its field. -/
def compiled (s : PatternSet) : Except RegexFault (List (String × RegexLibrary.Program)) :=
  s.patterns.mapM fun p => (RegexLibrary.compile p.pattern).map (p.field, ·)

/-- Whether every pattern on a field matches a value. A field without patterns has any value; a
pattern that is no expression matches nothing. -/
def accepts (s : PatternSet) (field value : String) : Bool :=
  (s.forField field).all fun p =>
    match RegexLibrary.compile p.pattern with
    | .ok program => RegexLibrary.isMatch program value
    | .error _ => false

end PatternSet

end GuidedDecoding
