import GuidedDecoding.Constraint.Set
import GuidedDecoding.Decimal.Plain
import GuidedDecoding.Text.Blank

/-!
# The graph of a set of constraints

A set is a graph when every member makes sense by itself and refers to members only. A member
depends on those it names, and conflicts with those it names or that name it.
-/

namespace GuidedDecoding

namespace Constraint

/-- Whether the confidence is a number from zero to one. -/
def hasProperConfidence (c : Constraint) : Bool := 0.0 ≤ c.confidence && c.confidence ≤ 1.0

/-- What is wrong with a constraint by itself. -/
def fault? (c : Constraint) : Option String :=
  if Text.allBlank c.id then some "empty id"
  else if !c.hasProperConfidence then
    some s!"confidence {plainText c.confidence} outside [0, 1]"
  else if !c.enforcement.accepts c.payload then
    some s!"payload cannot be enforced as {c.enforcement.name}"
  else if c.id ∈ c.dependsOn then some "depends on itself"
  else if c.id ∈ c.conflictsWith then some "conflicts with itself"
  else none

/-- Every id that a constraint refers to, those it depends on first. -/
def references (c : Constraint) : List String := c.dependsOn.toList ++ c.conflictsWith.toList

/-- Whether either of two constraints declares a conflict with the other. -/
def conflicts (c d : Constraint) : Bool :=
  decide (d.id ∈ c.conflictsWith) || decide (c.id ∈ d.conflictsWith)

end Constraint

namespace ConstraintSet

/-- The first member, by id, that is wrong by itself. -/
def invalid? (s : ConstraintSet) : Option CompileError :=
  s.members.findSome? fun c => c.fault?.map fun reason => .invalidConstraint c.id reason

/-- The first reference, by id of the member that has it, to what is not a member. -/
def dangling? (s : ConstraintSet) : Option CompileError :=
  s.members.findSome? fun c =>
    (c.references.find? fun id => !s.contains id).map fun id => .danglingReference c.id id

/-- Why a set is not a graph. -/
def fault? (s : ConstraintSet) : Option CompileError := s.invalid?.or s.dangling?

end ConstraintSet

/-- A set whose members make sense and refer to members only. -/
structure ConstraintGraph where
  set : ConstraintSet
  sound : set.fault? = none

namespace ConstraintGraph

/-- The graph of a set. -/
def build (set : ConstraintSet) : Except CompileError ConstraintGraph :=
  match h : set.fault? with
  | some e => .error e
  | none => .ok ⟨set, h⟩

/-- The members, in order of their ids. -/
def nodes (g : ConstraintGraph) : List Constraint := g.set.members

/-- The number of dependencies. -/
def dependencyCount (g : ConstraintGraph) : Nat :=
  g.nodes.foldl (fun n c => n + c.dependsOn.toList.length) 0

/-- Each pair of conflicting members of a list once, in the order of the list. -/
def conflictsAmong : List Constraint → List (Constraint × Constraint)
  | [] => []
  | c :: rest => (rest.filter c.conflicts).map (c, ·) ++ conflictsAmong rest

/-- Each pair of conflicting members once, the smaller id first, in order of ids. -/
def conflicts (g : ConstraintGraph) : List (Constraint × Constraint) := conflictsAmong g.nodes

end ConstraintGraph

end GuidedDecoding
