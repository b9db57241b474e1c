import GuidedDecoding.Graph.Conflict
import GuidedDecoding.Graph.Order

/-!
# Resolved constraints

Resolving a graph says which constraints are enforced and in what order, and which are only
carried along. A cycle of dependencies is reported before a conflict is.
-/

namespace GuidedDecoding

/-- The constraints to enforce, dependencies first, and the rest as remarks in the same order. -/
structure Resolution where
  ordered : List Constraint
  advisory : List AdvisoryEntry
  notes : List CompilationNote

namespace Resolution

/-- Why a constraint is not enforced, if it is not. -/
def reason? (demotions : List Demotion) (c : Constraint) : Option AdvisoryReason :=
  match demotions.find? fun d => d.loser.id = c.id with
  | some d => some (.demoted d.winner.id)
  | none => if c.isEnforced then none else some .declared

/-- The remark about a constraint that is not enforced. -/
def remark? (demotions : List Demotion) (c : Constraint) : Option AdvisoryEntry :=
  (reason? demotions c).map fun reason => ⟨c.id, c.priority, reason⟩

/-- Resolve a graph. -/
def ofGraph (g : ConstraintGraph) : Except CompileError Resolution := do
  let order ← g.order
  let demotions ← g.demotions
  return {
    ordered := order.filter fun c => (reason? demotions c).isNone
    advisory := order.filterMap (remark? demotions)
    notes := demotions.map Demotion.note }

end Resolution

end GuidedDecoding
