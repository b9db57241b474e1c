import GuidedDecoding.Artifact.Basic
import GuidedDecoding.Graph.Basic

/-!
# Settling conflicts

Of two enforced constraints that conflict the more important one is kept and the other demoted.
Pairs are settled from the most important down, and a constraint that has been demoted takes part
in no conflict any more. Two that are equally important cannot be told apart, which is an error.
-/

namespace GuidedDecoding

/-- A conflict, the more important side first; of equally important sides the one with the smaller
id comes first. -/
structure Conflict where
  high : Constraint
  low : Constraint

/-- A conflict that was settled. -/
structure Demotion where
  winner : Constraint
  loser : Constraint

namespace Conflict

/-- Turn a pair so that its more important side comes first. -/
def ofPair (pair : Constraint × Constraint) : Conflict :=
  if pair.1.priority < pair.2.priority then ⟨pair.2, pair.1⟩ else ⟨pair.1, pair.2⟩

/-- Whether one conflict is settled no later than another: by the importance of the stronger
sides, then of the weaker sides, then by ids. -/
def notAfter (x y : Conflict) : Bool :=
  if x.high.priority ≠ y.high.priority then y.high.priority < x.high.priority
  else if x.low.priority ≠ y.low.priority then y.low.priority < x.low.priority
  else if x.high.id ≠ y.high.id then x.high.id < y.high.id
  else x.low.id ≤ y.low.id

/-- Whether the conflict is between constraints that are enforced. -/
def isLive (x : Conflict) : Bool := x.high.isEnforced && x.low.isEnforced

end Conflict

namespace Demotion

/-- Whether some demotion is of the constraint with an id. -/
def hasLoser (demotions : List Demotion) (id : String) : Bool :=
  demotions.any fun d => d.loser.id = id

/-- The remark about a demotion. -/
def note (d : Demotion) : CompilationNote where
  kept := d.winner.id
  demoted := d.loser.id
  keptPriority := d.winner.priority
  demotedPriority := d.loser.priority

end Demotion

namespace ConstraintGraph

/-- The conflicts of a graph in the order in which they are settled. -/
def rankedConflicts (g : ConstraintGraph) : List Conflict :=
  (g.conflicts.map Conflict.ofPair).mergeSort Conflict.notAfter

/-- Settle conflicts in a row, after others have been settled. -/
def settle : List Conflict → List Demotion → Except CompileError (List Demotion)
  | [], settled => .ok settled
  | x :: rest, settled =>
    if !x.isLive || Demotion.hasLoser settled x.high.id || Demotion.hasLoser settled x.low.id then
      settle rest settled
    else if x.high.priority = x.low.priority then
      .error (.unresolvableConflict x.high.id x.low.id x.high.priority.name)
    else settle rest (settled ++ [⟨x.high, x.low⟩])

/-- Every demotion, in the order in which conflicts are settled. -/
def demotions (g : ConstraintGraph) : Except CompileError (List Demotion) :=
  settle g.rankedConflicts []

end ConstraintGraph

end GuidedDecoding
