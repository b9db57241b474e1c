/-!
# Errors of compilation

Compiling a set of constraints stops at the first thing that is wrong with it. An error names the
constraints it is about.
-/

namespace GuidedDecoding

/-- Why a set of constraints cannot be compiled. -/
inductive CompileError where
  | danglingReference (id missing : String)
  | invalidConstraint (id reason : String)
  | dependencyCycle (ids : List String)
  | unresolvableConflict (a b priority : String)
  | ambiguousGrammar (rule : String) (ids : List String) (reason : String)
  | invalidPattern (id pattern reason : String)
  | inconsistent (ids : List String) (reason : String)
deriving DecidableEq, Repr

namespace CompileError

/-- A stable word for the kind of error. -/
def code : CompileError → String
  | .danglingReference .. => "DANGLING_REFERENCE"
  | .invalidConstraint .. => "INVALID_CONSTRAINT"
  | .dependencyCycle .. => "DEPENDENCY_CYCLE"
  | .unresolvableConflict .. => "UNRESOLVABLE_CONFLICT"
  | .ambiguousGrammar .. => "AMBIGUOUS_GRAMMAR"
  | .invalidPattern .. => "INVALID_PATTERN"
  | .inconsistent .. => "INCONSISTENT_IR"

/-- The constraints that an error is about. -/
def ids : CompileError → List String
  | .danglingReference id _ => [id]
  | .invalidConstraint id _ => [id]
  | .dependencyCycle ids => ids
  | .unresolvableConflict a b _ => [a, b]
  | .ambiguousGrammar _ ids _ => ids
  | .invalidPattern id _ _ => [id]
  | .inconsistent ids _ => ids

/-- Several names in a message. -/
def listed (names : List String) : String := ", ".intercalate names

def message : CompileError → String
  | .danglingReference id missing => s!"constraint {id} references unknown constraint {missing}"
  | .invalidConstraint id reason => s!"invalid constraint {id}: {reason}"
  | .dependencyCycle ids => s!"dependency cycle among constraints [{listed ids}]"
  | .unresolvableConflict a b priority =>
    s!"unresolvable conflict between {a} and {b}: both have priority {priority}"
  | .ambiguousGrammar rule ids reason =>
    s!"ambiguous grammar in rule {rule} (constraints [{listed ids}]): {reason}"
  | .invalidPattern id pattern reason =>
    s!"invalid pattern in constraint {id} ({pattern}): {reason}"
  | .inconsistent ids reason => s!"inconsistent IR (constraints [{listed ids}]): {reason}"

end CompileError

end GuidedDecoding
