import GuidedDecoding.Proofs.Graph.Order
import GuidedDecoding.Proofs.Graph.Resolution

/-!
# Resolution keeps the order

Resolving reports a cycle exactly if there is one, and names the members that lie on a cycle and no
others. Without a cycle both lists of a resolution are taken from the one order of the graph, and
every member is in one of them.
-/

namespace GuidedDecoding

namespace ConstraintGraph

theorem settle_ne_dependencyCycle {ids : List String} {ranked : List Conflict}
    {settled : List Demotion} : settle ranked settled ≠ .error (.dependencyCycle ids) := by
  induction ranked generalizing settled with
  | nil => simp [settle]
  | cons x rest ih =>
    unfold settle
    split
    · exact ih
    · split
      · simp
      · exact ih

end ConstraintGraph

namespace Resolution

/-- Both lists keep an order, and whatever is in the order is in one of the two, once. -/
structure TakenFrom (order : List Constraint) (r : Resolution) : Prop where
  ordered : r.ordered.Sublist order
  advisory : (r.advisory.map AdvisoryEntry.id).Sublist (order.map Constraint.id)
  shared : (r.ordered.map Constraint.id ++ r.advisory.map AdvisoryEntry.id).Perm
    (order.map Constraint.id)

theorem advisory_ids (order : List Constraint) (demotions : List Demotion) :
    (assembled order demotions).advisory.map AdvisoryEntry.id =
      (order.filter fun c => !(reason? demotions c).isNone).map Constraint.id := by
  induction order with
  | nil => rfl
  | cons c rest ih =>
    simp only [assembled] at ih ⊢
    cases why : reason? demotions c with
    | none => simp [remark?, why, ih]
    | some reason => simp [remark?, why, ih]

theorem assembled_takenFrom (order : List Constraint) (demotions : List Demotion) :
    TakenFrom order (assembled order demotions) where
  ordered := List.filter_sublist
  advisory := by
    rw [advisory_ids]
    exact List.filter_sublist.map _
  shared := by
    rw [advisory_ids, ← List.map_append]
    exact (List.filter_append_perm _ order).map _

/-- Every member of a graph is either enforced or carried along, once. -/
theorem shared_of_ofGraph {g : ConstraintGraph} {r : Resolution} (h : ofGraph g = .ok r) :
    (r.ordered.map Constraint.id ++ r.advisory.map AdvisoryEntry.id).Perm g.set.ids := by
  obtain ⟨order, demotions, inOrder, -, rfl⟩ := exists_of_ofGraph h
  exact (assembled_takenFrom order demotions).shared.trans (inOrder.members.map _)

theorem nodup_of_ofGraph {g : ConstraintGraph} {r : Resolution} (h : ofGraph g = .ok r) :
    (r.ordered.map Constraint.id ++ r.advisory.map AdvisoryEntry.id).Nodup :=
  (shared_of_ofGraph h).nodup_iff.2 g.set.nodup_ids

theorem ofGraph_eq_dependencyCycle_iff {g : ConstraintGraph} {ids : List String} :
    ofGraph g = .error (.dependencyCycle ids) ↔
      ¬ g.Acyclic ∧ ids = g.onCycle.map Constraint.id := by
  by_cases acyclic : g.Acyclic
  · obtain ⟨order, placed, -⟩ := ConstraintGraph.exists_dependencyOrder acyclic
    have settled : g.demotions ≠ .error (.dependencyCycle ids) :=
      ConstraintGraph.settle_ne_dependencyCycle
    have resolved : ofGraph g = .error (.dependencyCycle ids) ↔
        g.demotions = .error (.dependencyCycle ids) := by
      cases done : g.demotions with
      | error e => simp [ofGraph, placed, done, bind, Except.bind]
      | ok demotions => simp [ofGraph, placed, done, bind, Except.bind, pure, Except.pure]
    simp [resolved, settled, acyclic]
  · have failed : ofGraph g = .error (.dependencyCycle (g.onCycle.map Constraint.id)) := by
      simp [ofGraph, ConstraintGraph.order_of_cyclic acyclic, bind, Except.bind]
    simp [failed, acyclic, eq_comm]

/-- A cycle is reported exactly if there is one, as the sorted ids of the members that depend on
themselves. Otherwise everything that is resolved is taken from an order in which each member is the
first of those whose dependencies have been placed. While members are placed, each counter is the
number of dependencies that have not been. -/
theorem ofGraph_keeps_order (g : ConstraintGraph) :
    ((∃ ids, ofGraph g = .error (.dependencyCycle ids)) ↔
      ∃ c, Relation.TransGen g.DependsOn c c) ∧
    (∀ ids, ofGraph g = .error (.dependencyCycle ids) → ids.Pairwise (· < ·) ∧
      ∀ id, id ∈ ids ↔ ∃ c, Relation.TransGen g.DependsOn c c ∧ c.id = id) ∧
    (g.Acyclic → ∃ order, g.order = .ok order ∧ g.DependencyOrder order ∧
      ∀ r, ofGraph g = .ok r → TakenFrom order r) ∧
    (∀ steps, ∀ k ∈ ((Placing.start g.nodes).run steps).counters, 0 ≤ k.2 ∧
      k.2 = Placing.unplaced ((Placing.start g.nodes).run steps).placed k.1) := by
  refine ⟨?_, ?_, ?_, ?_⟩
  · simp [ofGraph_eq_dependencyCycle_iff, ConstraintGraph.Acyclic]
  · intro ids failed
    obtain ⟨-, rfl⟩ := ofGraph_eq_dependencyCycle_iff.1 failed
    refine ⟨g.sorted_onCycle, fun id => ?_⟩
    simp [ConstraintGraph.mem_onCycle_iff]
  · intro acyclic
    obtain ⟨order, placed, inOrder⟩ := ConstraintGraph.exists_dependencyOrder acyclic
    refine ⟨order, placed, inOrder, fun r resolved => ?_⟩
    obtain ⟨order', demotions, placed', -, rfl⟩ := ofGraph_eq_ok_iff.1 resolved
    have same : order' = order := Except.ok.inj (placed'.symm.trans placed)
    exact same ▸ assembled_takenFrom order' demotions
  · intro steps k counter
    rw [(g.run_tracks steps).counted] at counter
    obtain ⟨c, -, rfl⟩ := List.mem_map.1 counter
    exact ⟨Int.natCast_nonneg _, rfl⟩

/-- Two fields that need each other, and a third that needs one of them. -/
def waitingForCycle : ConstraintGraph where
  set := {
    members := [(Constraint.ofField "a" .low "a" .string).dependingOn "b",
      (Constraint.ofField "b" .high "b" .string).dependingOn "a",
      (Constraint.ofField "c" .critical "c" .string).dependingOn "a"]
    sorted := by decide }
  sound := rfl

/-- What merely waits for a cycle is left over as well, but not named. -/
theorem ofGraph_waitingForCycle :
    waitingForCycle.placing.placed = [] ∧
      ofGraph waitingForCycle = .error (.dependencyCycle ["a", "b"]) ∧
      ¬ ∃ c, Relation.TransGen waitingForCycle.DependsOn c c ∧ c.id = "c" := by
  have reported : ofGraph waitingForCycle = .error (.dependencyCycle ["a", "b"]) := rfl
  have named := ((ofGraph_keeps_order waitingForCycle).2.1 ["a", "b"] reported).2 "c"
  exact ⟨rfl, reported, fun onCycle => absurd (named.2 onCycle) (by decide)⟩

end Resolution

end GuidedDecoding
