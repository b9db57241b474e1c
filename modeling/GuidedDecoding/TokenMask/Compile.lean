import GuidedDecoding.Error.Compile
import GuidedDecoding.TokenMask.Verdict

/-!
# Compiling token rules

Each constraint becomes one rule of the mask, in the order of the constraints. A rule has to be able
to tell symbols apart, and its pattern has to be a regular expression when it is wrapped.
-/

namespace GuidedDecoding

variable [RegexLibrary]

namespace MaskRule

/-- The rule that a constraint stands for. -/
def ofConstraint (c : Constraint) : Except CompileError MaskRule :=
  match c.payload with
  | .tokenRule action selects =>
    match selects with
    | .literals members =>
      if members.isEmpty || decide ("" ∈ members) then
        .error (.invalidConstraint c.id "literal set is empty or holds an empty literal")
      else .ok ⟨action, selects, c.id⟩
    | .startingWith text =>
      if text.isEmpty then .error (.invalidConstraint c.id "empty prefix")
      else .ok ⟨action, selects, c.id⟩
    | .pattern source =>
      match selects.ready with
      | .error fault => .error (.invalidPattern c.id source fault.message)
      | .ok _ => .ok ⟨action, selects, c.id⟩
  | _ => .error (.invalidConstraint c.id "token-mask constraint without a token rule")

end MaskRule

namespace TokenMask

/-- The mask of the constraints that are enforced by one, if there are any. -/
def ofConstraints (constraints : List Constraint) : Except CompileError (Option TokenMask) :=
  match constraints.filter fun c => c.enforcement = .tokenMask with
  | [] => .ok none
  | targeted => (targeted.mapM MaskRule.ofConstraint).map fun l => some ⟨l⟩

end TokenMask

end GuidedDecoding
