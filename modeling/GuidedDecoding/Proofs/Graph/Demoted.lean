import GuidedDecoding.Proofs.Graph.Advice

/-!
# What is demoted might as well be advice

The order of a graph depends on ids, priorities and dependencies only, and what stays enforced in a
graph that is resolved has no conflicts. So a graph in which the constraints that were demoted are
advice from the start is resolved alike, and without notes (`Resolution.ofGraph_withAdvice`).
-/

namespace GuidedDecoding

/-- The entry of a constraint that was advice from the start. -/
def AdvisoryEntry.asDeclared (e : AdvisoryEntry) : AdvisoryEntry := { e with reason := .declared }

/-- Whether some entry says that the constraint of an id was demoted. -/
def demotedIn (advisory : List AdvisoryEntry) (id : String) : Bool :=
  advisory.any fun e => e.id = id && e.reason ≠ .declared

namespace Constraint

/-- The same constraint, enforced by nothing if its id is one of some. -/
def asAdvice (p : String → Bool) (c : Constraint) : Constraint :=
  if p c.id then { c with enforcement := .advisory } else c

section

variable (p : String → Bool) (c d : Constraint)

@[simp] theorem id_asAdvice : (c.asAdvice p).id = c.id := by
  unfold asAdvice
  split <;> rfl

@[simp] theorem priority_asAdvice : (c.asAdvice p).priority = c.priority := by
  unfold asAdvice
  split <;> rfl

@[simp] theorem dependsOn_asAdvice : (c.asAdvice p).dependsOn = c.dependsOn := by
  unfold asAdvice
  split <;> rfl

@[simp] theorem conflictsWith_asAdvice : (c.asAdvice p).conflictsWith = c.conflictsWith := by
  unfold asAdvice
  split <;> rfl

@[simp] theorem conflicts_asAdvice : (c.asAdvice p).conflicts (d.asAdvice p) = c.conflicts d := by
  simp [conflicts]

@[simp] theorem goesBefore_asAdvice :
    (c.asAdvice p).goesBefore (d.asAdvice p) = c.goesBefore d := by
  simp [goesBefore]

@[simp] theorem isEnforced_asAdvice : (c.asAdvice p).isEnforced = (!p c.id && c.isEnforced) := by
  unfold asAdvice
  split <;> simp_all [isEnforced]

@[simp] theorem references_asAdvice : (c.asAdvice p).references = c.references := by
  simp [references]

end

variable {p : String → Bool} {c : Constraint}

theorem asAdvice_of_not (h : p c.id = false) : c.asAdvice p = c := by
  simp [asAdvice, h]

/-- Anything may be advice. -/
theorem fault?_asAdvice (valid : c.fault? = none) : (c.asAdvice p).fault? = none := by
  cases pick : p c.id with
  | false => rwa [asAdvice_of_not pick]
  | true =>
    rw [fault?_eq_none_iff] at valid ⊢
    rw [asAdvice, if_pos pick]
    exact ⟨valid.1, valid.2.1, rfl, valid.2.2.2⟩

end Constraint

namespace ConstraintSet

/-- The set in which the members of some ids are advice. -/
def withAdvice (s : ConstraintSet) (p : String → Bool) : ConstraintSet where
  members := s.members.map (Constraint.asAdvice p)
  sorted := by simpa [Function.comp_def] using s.sorted

theorem fault?_withAdvice {s : ConstraintSet} {p : String → Bool} (sound : s.fault? = none) :
    (s.withAdvice p).fault? = none := by
  rw [fault?_eq_none_iff] at sound ⊢
  simp only [withAdvice, List.forall_mem_map, Constraint.references_asAdvice, ids, List.map_map,
    Function.comp_def, Constraint.id_asAdvice]
  exact ⟨fun c member => Constraint.fault?_asAdvice (sound.1 c member), sound.2⟩

end ConstraintSet

namespace Placing

variable {nodes placed order : List Constraint} {p : String → Bool} {c : Constraint}

theorem free_map_asAdvice_iff :
    Free (nodes.map (Constraint.asAdvice p)) (placed.map (Constraint.asAdvice p)) c ↔
      ∃ d, Free nodes placed d ∧ d.asAdvice p = c := by
  have ids : (placed.map (Constraint.asAdvice p)).map Constraint.id = placed.map Constraint.id := by
    simp [Function.comp_def]
  constructor
  · rintro ⟨member, new, met⟩
    obtain ⟨d, inNodes, rfl⟩ := List.mem_map.1 member
    rw [ids, Constraint.id_asAdvice] at new
    rw [ids, Constraint.dependsOn_asAdvice] at met
    exact ⟨d, ⟨inNodes, new, met⟩, rfl⟩
  · rintro ⟨d, ⟨member, new, met⟩, rfl⟩
    refine ⟨List.mem_map_of_mem member, ?_, ?_⟩
    · rwa [ids, Constraint.id_asAdvice]
    · rwa [ids, Constraint.dependsOn_asAdvice]

/-- Members keep their turns when some of them become advice. -/
theorem InTurn.asAdvice (h : InTurn nodes order) :
    InTurn (nodes.map (Constraint.asAdvice p)) (order.map (Constraint.asAdvice p)) := by
  intro before c after split
  obtain ⟨first, last, rfl, rfl, fromHere⟩ := List.map_eq_append_iff.1 split
  obtain ⟨d, rest, rfl, rfl, rfl⟩ := List.map_eq_cons_iff.1 fromHere
  obtain ⟨free, foremost⟩ := h first d rest rfl
  refine ⟨free_map_asAdvice_iff.2 ⟨d, free, rfl⟩, fun e free' different => ?_⟩
  obtain ⟨f, alsoFree, rfl⟩ := free_map_asAdvice_iff.1 free'
  rw [Constraint.goesBefore_asAdvice]
  exact foremost f alsoFree (by simpa using different)

end Placing

namespace ConstraintGraph

/-- Where no members are rivals, none is demoted. -/
theorem demotions_eq_nil {g : ConstraintGraph}
    (peace : ∀ c ∈ g.nodes, ∀ d ∈ g.nodes, ¬ c.Rivals d) : g.demotions = .ok [] := by
  have none_live : g.rankedConflicts.filter Conflict.isLive = [] := by
    rw [List.filter_eq_nil_iff]
    intro x ranked live
    obtain ⟨high, low, declared, -⟩ := of_mem_rankedConflicts ranked
    rw [Conflict.isLive, Bool.and_eq_true] at live
    exact peace _ high _ low ⟨live.1, live.2, declared⟩
  rw [demotions, ← settle_filter_isLive, none_live, settle]

end ConstraintGraph

namespace Resolution

open ConstraintGraph

/-- The resolution in which all that is carried along was advice from the start. -/
def asDeclared (r : Resolution) : Resolution where
  ordered := r.ordered
  advisory := r.advisory.map AdvisoryEntry.asDeclared
  notes := []

variable {g g' : ConstraintGraph} {order : List Constraint} {demotions : List Demotion}
  {c : Constraint} {r : Resolution}

/-- The entry of a member says that it was demoted exactly if it has lost. -/
theorem demotedIn_advisory (members : order.Perm g.nodes) (member : c ∈ g.nodes) :
    demotedIn (assembled order demotions).advisory c.id = Demotion.hasLoser demotions c.id := by
  rw [Bool.eq_iff_iff, demotedIn, List.any_eq_true]
  constructor
  · rintro ⟨e, entry, told⟩
    obtain ⟨d, early, remarked⟩ := List.mem_filterMap.1 entry
    obtain ⟨reason, why, rfl⟩ := Option.map_eq_some_iff.1 remarked
    simp only [Bool.and_eq_true, decide_eq_true_eq] at told
    obtain rfl := eq_of_id_eq (members.subset early) member told.1
    by_contra standing
    rw [reason?_of_not_hasLoser (Bool.not_eq_true _ ▸ standing)] at why
    split at why
    · cases why
    · exact told.2 (Option.some.inj why).symm
  · intro lost
    obtain ⟨id, why⟩ := reason?_of_hasLoser lost
    refine ⟨⟨c.id, c.priority, .demoted id⟩, ?_, by simp⟩
    exact List.mem_filterMap.2 ⟨c, members.symm.subset member, by rw [remark?, why, Option.map_some]⟩

/-- What stays enforced is what no entry says was demoted. -/
theorem mem_ordered_of_ofGraph (resolved : ofGraph g = .ok r) :
    c ∈ r.ordered ↔ c ∈ g.nodes ∧ c.isEnforced = true ∧ demotedIn r.advisory c.id = false := by
  obtain ⟨order, demotions, inOrder, -, rfl⟩ := exists_of_ofGraph resolved
  have stays : c ∈ (assembled order demotions).ordered ↔
      c ∈ g.nodes ∧ ¬ Demotion.hasLoser demotions c.id = true ∧ c.isEnforced = true := by
    rw [assembled, List.mem_filter, inOrder.members.mem_iff, reason?_isNone_iff]
  rw [stays]
  refine and_congr_right fun member => ?_
  rw [demotedIn_advisory inOrder.members member, Bool.not_eq_true, and_comm]

/-- If those that have lost are advice, the reason of everything is that it is advice. -/
theorem reason?_asAdvice {p : String → Bool} (lost : p c.id = Demotion.hasLoser demotions c.id) :
    reason? [] (c.asAdvice p) = (reason? demotions c).map fun _ => .declared := by
  rw [reason?_of_not_hasLoser rfl, Constraint.isEnforced_asAdvice, lost]
  cases lost : Demotion.hasLoser demotions c.id with
  | true =>
    obtain ⟨id, why⟩ := reason?_of_hasLoser lost
    simp [why]
  | false =>
    rw [reason?_of_not_hasLoser lost]
    cases c.isEnforced <;> simp

theorem assembled_asAdvice {p : String → Bool}
    (lost : ∀ c ∈ order, p c.id = Demotion.hasLoser demotions c.id) :
    assembled (order.map (Constraint.asAdvice p)) [] = (assembled order demotions).asDeclared := by
  simp only [assembled, asDeclared, mk.injEq, List.map_nil, and_true]
  constructor
  · have stay : ∀ c ∈ order, ((fun c => (reason? [] c).isNone) ∘ Constraint.asAdvice p) c =
        (reason? demotions c).isNone := by
      intro c early
      rw [Function.comp_apply, reason?_asAdvice (lost c early), Option.isNone_map]
    rw [List.filter_map, List.filter_congr stay]
    refine (List.map_congr_left fun c stays => ?_).trans (List.map_id _)
    obtain ⟨early, free⟩ := List.mem_filter.1 stays
    refine Constraint.asAdvice_of_not ?_
    rw [lost c early]
    simpa using (reason?_isNone_iff.1 free).1
  · rw [List.filterMap_map, List.map_filterMap]
    refine List.filterMap_congr fun c early => ?_
    simp only [Function.comp_apply, remark?, reason?_asAdvice (lost c early), Option.map_map,
      Constraint.id_asAdvice, Constraint.priority_asAdvice]
    rfl

section

variable {p : String → Bool}

theorem order_asAdvice (inOrder : g.DependencyOrder order)
    (nodes : g'.nodes = g.nodes.map (Constraint.asAdvice p)) :
    g'.order = .ok (order.map (Constraint.asAdvice p)) := by
  refine order_eq_ok_iff.2 (dependencyOrder_of_inTurn ?_ ?_) <;> rw [nodes]
  · exact inOrder.members.map _
  · exact inOrder.inTurn.asAdvice

theorem kept_of_asAdvice (settled : g.Settled g.rankedConflicts demotions) (member : c ∈ g.nodes)
    (lost : p c.id = Demotion.hasLoser demotions c.id)
    (enforced : (c.asAdvice p).isEnforced = true) : g.Kept c := by
  rw [Constraint.isEnforced_asAdvice, lost, Bool.and_eq_true, Bool.not_eq_true'] at enforced
  by_contra dropped
  have gone := (settled.hasLoser_final_iff member enforced.2).2 dropped
  cases gone.symm.trans enforced.1

/-- When those that have lost are advice, the others are in peace. -/
theorem demotions_asAdvice (settled : g.Settled g.rankedConflicts demotions)
    (lost : ∀ c ∈ g.nodes, p c.id = Demotion.hasLoser demotions c.id)
    (nodes : g'.nodes = g.nodes.map (Constraint.asAdvice p)) : g'.demotions = .ok [] := by
  refine demotions_eq_nil fun c' memberC d' memberD rivals => ?_
  rw [nodes] at memberC memberD
  obtain ⟨c, hc, rfl⟩ := List.mem_map.1 memberC
  obtain ⟨d, hd, rfl⟩ := List.mem_map.1 memberD
  obtain ⟨enforcedC, enforcedD, declared⟩ := rivals
  have keptC := kept_of_asAdvice settled hc (lost c hc) enforcedC
  have keptD := kept_of_asAdvice settled hd (lost d hd) enforcedD
  rw [Constraint.conflicts_asAdvice] at declared
  exact settled.not_rivals keptC keptD ⟨keptC.isEnforced, keptD.isEnforced, declared⟩

end

/-- A graph is resolved alike when what was demoted is advice from the start. -/
theorem ofGraph_withAdvice (resolved : ofGraph g = .ok r)
    (same : g'.set = g.set.withAdvice (demotedIn r.advisory)) : ofGraph g' = .ok r.asDeclared := by
  obtain ⟨order, demotions, inOrder, settled, rfl⟩ := exists_of_ofGraph resolved
  have nodes : g'.nodes =
      g.nodes.map (Constraint.asAdvice (demotedIn (assembled order demotions).advisory)) :=
    congrArg ConstraintSet.members same
  have lost : ∀ c ∈ g.nodes, demotedIn (assembled order demotions).advisory c.id =
      Demotion.hasLoser demotions c.id := fun c => demotedIn_advisory inOrder.members
  have assembled := assembled_asAdvice fun c early => lost c (inOrder.members.subset early)
  exact ofGraph_eq_ok_iff.2 ⟨_, _, order_asAdvice inOrder nodes,
    demotions_asAdvice settled lost nodes, assembled.symm⟩

end Resolution

end GuidedDecoding
