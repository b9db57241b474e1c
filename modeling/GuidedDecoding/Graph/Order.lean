import GuidedDecoding.Graph.Basic
import GuidedDecoding.Saturation

/-!
# Dependencies before dependents

Members are placed one after another. For each member there is a counter of the members it depends
on that have not been placed, and a member whose counter comes down to zero is ready. Of the ready
members the most important one is placed next, and of equally important ones that with the smallest
id. What is never placed lies on a cycle of dependencies or depends on one.
-/

namespace GuidedDecoding

namespace Constraint

/-- Whether one of two constraints that could both be placed is placed first. -/
def goesBefore (c d : Constraint) : Bool :=
  d.priority < c.priority || (c.priority = d.priority && c.id < d.id)

end Constraint

/-- Members on their way into order: those that have been placed, those that may be placed next,
and the counter of each member. -/
structure Placing where
  placed : List Constraint
  ready : List Constraint
  counters : List (Constraint × Int)

namespace Placing

/-- The member of a list that goes before all others. -/
def foremost? : List Constraint → Option Constraint
  | [] => none
  | c :: rest =>
    match foremost? rest with
    | some d => if d.goesBefore c then some d else some c
    | none => some c

/-- Nothing has been placed. -/
def start (nodes : List Constraint) : Placing where
  placed := []
  ready := nodes.filter fun c => c.dependsOn.isEmpty
  counters := nodes.map fun c => (c, c.dependsOn.toList.length)

/-- The counter of a member after something has been placed. -/
def countDown (placed : Constraint) (counter : Constraint × Int) : Constraint × Int :=
  if placed.id ∈ counter.1.dependsOn then (counter.1, counter.2 - 1) else counter

/-- Place a member that is ready. Those that have waited for nothing else become ready. -/
def place (p : Placing) (c : Constraint) : Placing :=
  let counters := p.counters.map (countDown c)
  let freed := counters.filter fun k => decide (c.id ∈ k.1.dependsOn) && decide (k.2 = 0)
  { placed := p.placed ++ [c]
    ready := freed.map Prod.fst ++ p.ready.filter fun d => d.id ≠ c.id
    counters }

/-- Place a number of members, or as many as become ready. -/
def run : (steps : Nat) → Placing → Placing
  | 0, p => p
  | steps + 1, p =>
    match foremost? p.ready with
    | none => p
    | some c => run steps (p.place c)

end Placing

namespace ConstraintGraph

/-- The members after as many as possible have been placed. Each step places one, so as many steps
as there are members are enough. -/
def placing (g : ConstraintGraph) : Placing := (Placing.start g.nodes).run g.nodes.length

/-- The ids that the constraint of an id depends on directly. -/
def dependenciesOf (g : ConstraintGraph) (id : String) : List String :=
  match g.set.get? id with
  | some c => c.dependsOn.toList
  | none => []

/-- Everything that a constraint depends on, directly or by way of others. -/
def dependencies (g : ConstraintGraph) (c : Constraint) : List String :=
  explore g.dependenciesOf g.nodes.length c.dependsOn.toList c.dependsOn.toList

/-- Whether two members are the same or each depends on the other. -/
def together (g : ConstraintGraph) (c d : Constraint) : Bool :=
  c.id = d.id || (decide (d.id ∈ g.dependencies c) && decide (c.id ∈ g.dependencies d))

/-- The strongly connected component that a member belongs to. -/
def component (g : ConstraintGraph) (c : Constraint) : List Constraint :=
  g.nodes.filter (g.together c)

/-- The members that share their component with another one. -/
def onCycle (g : ConstraintGraph) : List Constraint :=
  g.nodes.filter fun c => 1 < (g.component c).length

/-- All members, each after everything it depends on. -/
def order (g : ConstraintGraph) : Except CompileError (List Constraint) :=
  let placed := g.placing.placed
  if placed.length < g.nodes.length then .error (.dependencyCycle (g.onCycle.map Constraint.id))
  else .ok placed

end ConstraintGraph

end GuidedDecoding
