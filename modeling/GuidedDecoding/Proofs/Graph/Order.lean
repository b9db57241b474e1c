import GuidedDecoding.Proofs.Graph.Members
import GuidedDecoding.Proofs.Graph.Placing
import GuidedDecoding.Proofs.Saturation
import Mathlib.Data.Set.Finite.List
import Mathlib.Logic.Relation
import Mathlib.Order.WellFounded

/-!
# The order of a graph

Of the members that are never placed each waits for another one that is never placed. Were there
any, following what they wait for would come back to where it began, so a graph whose dependencies
have no cycle is placed as a whole. A graph that is placed as a whole has no cycle, since everything
comes after what it depends on.

What waits for a cycle is not placed either, but it is not on the cycle: it shares its component
with no other member.
-/

namespace GuidedDecoding

/-- In a finite list where everything leads on to something of the list, something leads back to
itself. -/
theorem exists_transGen_self {α : Type} {r : α → α → Prop} {l : List α} (nonempty : l ≠ [])
    (leads : ∀ a ∈ l, ∃ b ∈ l, r a b) : ∃ a, Relation.TransGen r a a := by
  by_contra none_back
  push Not at none_back
  let after : { a // a ∈ l } → { a // a ∈ l } → Prop := fun b a => Relation.TransGen r a.1 b.1
  have : Finite { a // a ∈ l } := l.finite_toSet.to_subtype
  have : IsTrans _ after := ⟨fun _ _ _ first second => second.trans first⟩
  have : Std.Irrefl after := ⟨fun a back => none_back a.1 back⟩
  have wf : WellFounded after := Finite.wellFounded_of_trans_of_irrefl after
  obtain ⟨a, member⟩ := List.exists_mem_of_ne_nil l nonempty
  obtain ⟨last, -, ends⟩ := wf.has_min Set.univ ⟨⟨a, member⟩, trivial⟩
  obtain ⟨b, inList, next⟩ := leads last.1 last.2
  exact ends ⟨b, inList⟩ trivial (.single next)

namespace ConstraintGraph

variable {g : ConstraintGraph} {c d : Constraint}

/-- One member names another as something it depends on. -/
def DependsOn (g : ConstraintGraph) (c d : Constraint) : Prop :=
  c ∈ g.nodes ∧ d ∈ g.nodes ∧ d.id ∈ c.dependsOn

/-- No member depends on itself by way of others. -/
def Acyclic (g : ConstraintGraph) : Prop := ∀ c, ¬ Relation.TransGen g.DependsOn c c

/-- A list has all members, each after whatever it depends on. At each place stands the most
important of those that could stand there, and the one with the smallest id among equals. -/
structure DependencyOrder (g : ConstraintGraph) (order : List Constraint) : Prop where
  members : order.Perm g.nodes
  after_dependencies : ∀ before c after, order = before ++ c :: after →
    ∀ d, Relation.TransGen g.DependsOn c d → d ∈ before
  foremost : ∀ before c after, order = before ++ c :: after →
    ∀ d ∈ g.nodes, ¬ d ∈ before → (∀ e, g.DependsOn d e → e ∈ before) → d ≠ c →
      d.priority < c.priority ∨ (c.priority = d.priority ∧ c.id < d.id)

section Placed

theorem nodup_nodes (g : ConstraintGraph) : g.nodes.Nodup := List.Nodup.of_map _ g.set.nodup_ids

/-- Members are placed exactly if their ids are. -/
theorem mem_iff_mem_ids {placed : List Constraint} (within : ∀ d ∈ placed, d ∈ g.nodes)
    (member : c ∈ g.nodes) : c ∈ placed ↔ c.id ∈ placed.map Constraint.id := by
  constructor
  · exact fun h => List.mem_map.2 ⟨c, h, rfl⟩
  · intro h
    obtain ⟨d, inList, same⟩ := List.mem_map.1 h
    rwa [← eq_of_id_eq (within d inList) member same]

/-- A member is free exactly if it has not been placed and everything it depends on has. -/
theorem free_iff {placed : List Constraint} (within : ∀ d ∈ placed, d ∈ g.nodes) :
    Placing.Free g.nodes placed c ↔
      c ∈ g.nodes ∧ ¬ c ∈ placed ∧ ∀ d, g.DependsOn c d → d ∈ placed := by
  constructor
  · intro free
    refine ⟨free.mem, fun h => free.new (List.mem_map.2 ⟨c, h, rfl⟩), ?_⟩
    rintro d ⟨-, member, needs⟩
    exact (mem_iff_mem_ids within member).2 (free.met d.id needs)
  · rintro ⟨member, new, met⟩
    refine ⟨member, fun h => new ((mem_iff_mem_ids within member).2 h), fun id needs => ?_⟩
    obtain ⟨d, inGraph, rfl⟩ := exists_dependency member needs
    exact List.mem_map.2 ⟨d, met d ⟨member, inGraph, needs⟩, rfl⟩

theorem run_tracks (g : ConstraintGraph) (steps : Nat) :
    ((Placing.start g.nodes).run steps).Tracks g.nodes :=
  (Placing.start_tracks g.set.nodup_ids).run g.set.nodup_ids

theorem placing_tracks (g : ConstraintGraph) : g.placing.Tracks g.nodes := g.run_tracks _

theorem mem_of_placed (h : c ∈ g.placing.placed) : c ∈ g.nodes := g.placing_tracks.inTurn.mem h

theorem nodup_placed (g : ConstraintGraph) : g.placing.placed.Nodup :=
  List.Nodup.of_map _ g.placing_tracks.distinct

section Split

variable {order before after : List Constraint}

theorem mem_of_split (inTurn : Placing.InTurn g.nodes order)
    (split : order = before ++ c :: after) : ∀ e ∈ before, e ∈ g.nodes := by
  intro e h
  apply inTurn.mem
  rw [split]
  exact List.mem_append_left _ h

theorem mem_before_of_dependsOn (inTurn : Placing.InTurn g.nodes order)
    (split : order = before ++ c :: after) (needs : g.DependsOn c d) : d ∈ before :=
  have free := (inTurn before c after split).1
  ((free_iff (mem_of_split inTurn split)).1 free).2.2 d needs

/-- What a member depends on, directly or by way of others, has its turn before it. -/
theorem mem_before (inTurn : Placing.InTurn g.nodes order) (split : order = before ++ c :: after)
    (needs : Relation.TransGen g.DependsOn c d) : d ∈ before := by
  induction needs with
  | single needs => exact mem_before_of_dependsOn inTurn split needs
  | @tail e d _ needs ih =>
    obtain ⟨first, between, rfl⟩ := List.append_of_mem ih
    have earlier : order = first ++ e :: (between ++ c :: after) := by
      simpa using split
    exact List.mem_append_left _ (mem_before_of_dependsOn inTurn earlier needs)

end Split

/-- If every member has its turn, the members are in order. -/
theorem dependencyOrder_of_inTurn {order : List Constraint} (members : order.Perm g.nodes)
    (inTurn : Placing.InTurn g.nodes order) : g.DependencyOrder order where
  members := members
  after_dependencies before c after split d := mem_before inTurn split
  foremost before c after split d member new met different := by
    obtain ⟨free, first⟩ := inTurn before c after split
    have other : d.id ≠ c.id := fun same => different (eq_of_id_eq member free.mem same)
    have free := (free_iff (mem_of_split inTurn split)).2 ⟨member, new, met⟩
    exact Constraint.goesBefore_iff.1 (first d free other)

/-- In order, every member has its turn. -/
theorem DependencyOrder.inTurn {order : List Constraint} (h : g.DependencyOrder order) :
    Placing.InTurn g.nodes order := by
  intro before c after split
  have nodup : (before ++ c :: after).Nodup := split ▸ h.members.nodup_iff.2 g.nodup_nodes
  have member : ∀ d, d ∈ before ++ c :: after → d ∈ g.nodes :=
    fun d inOrder => h.members.subset (split ▸ inOrder)
  have within : ∀ d ∈ before, d ∈ g.nodes := fun d early => member d (List.mem_append_left _ early)
  have here : c ∈ g.nodes := member c (List.mem_append_right _ List.mem_cons_self)
  constructor
  · refine (free_iff within).2 ⟨here, fun early => ?_, fun d needs => ?_⟩
    · exact (List.nodup_append.1 nodup).2.2 c early c List.mem_cons_self rfl
    · exact h.after_dependencies before c after split d (.single needs)
  · intro d free different
    obtain ⟨inGraph, new, met⟩ := (free_iff within).1 free
    exact Constraint.goesBefore_iff.2
      (h.foremost before c after split d inGraph new met fun same => different (congrArg _ same))

/-- If nothing is left over, the members have been placed in order. -/
theorem dependencyOrder_placed (all : g.nodes.length ≤ g.placing.placed.length) :
    g.DependencyOrder g.placing.placed :=
  dependencyOrder_of_inTurn
    ((List.subperm_of_subset g.nodup_placed fun _ h => mem_of_placed h).perm_of_length_le all)
    g.placing_tracks.inTurn

theorem DependencyOrder.acyclic {order : List Constraint} (h : g.DependencyOrder order) :
    g.Acyclic := by
  intro c back
  have member : c ∈ order := by
    obtain ⟨d, ⟨inGraph, -, -⟩, -⟩ := Relation.TransGen.head'_iff.1 back
    exact h.members.symm.subset inGraph
  obtain ⟨before, after, rfl⟩ := List.append_of_mem member
  have nodup : (before ++ c :: after).Nodup := h.members.nodup_iff.2 g.nodup_nodes
  have again : c ∈ before := h.after_dependencies before c after rfl c back
  exact (List.nodup_append.1 nodup).2.2 c again c List.mem_cons_self rfl

/-- The run does not end before its last step unless nothing is ready. -/
theorem ready_eq_nil_of_left (left : g.placing.placed.length < g.nodes.length) :
    g.placing.ready = [] := by
  rcases Placing.run_exhausted g.nodes.length (Placing.start g.nodes) with done | used
  · exact done
  · have full : g.placing.placed.length = g.nodes.length := by
      simpa [placing, Placing.start] using used
    omega

/-- What is not placed when nothing is ready waits for something that is not placed either. -/
theorem exists_waiting (none_ready : g.placing.ready = []) (member : c ∈ g.nodes)
    (new : ¬ c ∈ g.placing.placed) : ∃ d, g.DependsOn c d ∧ ¬ d ∈ g.placing.placed := by
  by_contra blocked
  push Not at blocked
  have free : Placing.Free g.nodes g.placing.placed c :=
    (free_iff fun _ => mem_of_placed).2 ⟨member, new, blocked⟩
  have ready := (g.placing_tracks.ready_iff c).2 free
  rw [none_ready] at ready
  exact List.not_mem_nil ready

/-- If something is left over, there is a cycle among what is left over. -/
theorem not_acyclic_of_left (left : g.placing.placed.length < g.nodes.length) : ¬ g.Acyclic := by
  classical
  intro acyclic
  let waiting := g.nodes.filter fun c => decide (¬ c ∈ g.placing.placed)
  have mem_waiting : ∀ c, c ∈ waiting ↔ c ∈ g.nodes ∧ ¬ c ∈ g.placing.placed := by
    intro c
    simp [waiting]
  have some_waiting : waiting ≠ [] := by
    intro empty
    have all : g.nodes ⊆ g.placing.placed := by
      intro c member
      by_contra new
      have kept := (mem_waiting c).2 ⟨member, new⟩
      rw [empty] at kept
      exact List.not_mem_nil kept
    have fits := (List.subperm_of_subset g.nodup_nodes all).length_le
    omega
  have waits : ∀ c ∈ waiting, ∃ d ∈ waiting, g.DependsOn c d := by
    intro c h
    obtain ⟨member, new⟩ := (mem_waiting c).1 h
    obtain ⟨d, needs, missing⟩ := exists_waiting (ready_eq_nil_of_left left) member new
    exact ⟨d, (mem_waiting d).2 ⟨needs.2.1, missing⟩, needs⟩
  obtain ⟨c, back⟩ := exists_transGen_self some_waiting waits
  exact acyclic c back

/-- A graph without a cycle is placed as a whole, and only such a graph is. -/
theorem acyclic_iff : g.Acyclic ↔ g.nodes.length ≤ g.placing.placed.length := by
  constructor
  · intro acyclic
    by_contra left
    exact not_acyclic_of_left (Nat.lt_of_not_le left) acyclic
  · exact fun all => (dependencyOrder_placed all).acyclic

end Placed

section Components

theorem not_dependsOn_self : ¬ g.DependsOn c c := fun ⟨member, _, needs⟩ =>
  (Constraint.fault?_eq_none_iff.1 (fault?_eq_none member)).2.2.2.1 needs

theorem mem_dependenciesOf_iff {id other : String} :
    other ∈ g.dependenciesOf id ↔ ∃ c d, g.DependsOn c d ∧ c.id = id ∧ d.id = other := by
  unfold dependenciesOf
  split
  · next c found =>
    obtain ⟨member, same⟩ := ConstraintSet.get?_eq_some_iff.1 found
    constructor
    · intro needs
      obtain ⟨d, inGraph, rfl⟩ := exists_dependency member needs
      exact ⟨c, d, ⟨member, inGraph, needs⟩, same, rfl⟩
    · rintro ⟨e, d, ⟨inGraph, -, needs⟩, rfl, rfl⟩
      rwa [eq_of_id_eq member inGraph same]
  · next missing =>
    constructor
    · exact fun h => absurd h List.not_mem_nil
    · rintro ⟨e, d, ⟨inGraph, -, -⟩, rfl, rfl⟩
      rw [ConstraintSet.get?_eq_some_iff.2 ⟨inGraph, rfl⟩] at missing
      exact absurd missing (by simp)

/-- The dependencies of a member are what it reaches. -/
theorem mem_dependencies_iff (member : c ∈ g.nodes) {id : String} :
    id ∈ g.dependencies c ↔ ∃ d, Relation.TransGen g.DependsOn c d ∧ d.id = id := by
  have stock : ∀ x ∈ g.set.ids, ∀ y ∈ g.dependenciesOf x, y ∈ g.set.ids := by
    intro x _ y next
    obtain ⟨-, d, ⟨-, inGraph, -⟩, -, rfl⟩ := mem_dependenciesOf_iff.1 next
    exact List.mem_map.2 ⟨d, inGraph, rfl⟩
  have start : ∀ x ∈ c.dependsOn.toList, x ∈ g.set.ids := fun x needs =>
    mem_ids_of_reference member (List.mem_append_left _ needs)
  have enough : g.set.ids.length ≤ g.nodes.length := (List.length_map _).le
  unfold dependencies
  rw [mem_explore_iff stock c.dependsOn.nodup start enough]
  constructor
  · rintro ⟨a, needs, reached⟩
    induction reached with
    | refl =>
      obtain ⟨d, inGraph, rfl⟩ := exists_dependency member needs
      exact ⟨d, .single ⟨member, inGraph, needs⟩, rfl⟩
    | tail _ next ih =>
      obtain ⟨e, reached, rfl⟩ := ih
      obtain ⟨f, d, step, same, rfl⟩ := mem_dependenciesOf_iff.1 next
      have inGraph : e ∈ g.nodes := by
        obtain ⟨_, -, -, inGraph, -⟩ := Relation.TransGen.tail'_iff.1 reached
        exact inGraph
      rw [eq_of_id_eq step.1 inGraph same] at step
      exact ⟨d, reached.tail step, rfl⟩
  · rintro ⟨d, reached, rfl⟩
    induction reached with
    | single step => exact ⟨_, step.2.2, .refl⟩
    | tail _ step ih =>
      obtain ⟨a, needs, reached⟩ := ih
      exact ⟨a, needs, reached.tail (mem_dependenciesOf_iff.2 ⟨_, _, step, rfl, rfl⟩)⟩

theorem mem_dependencies_id_iff (hc : c ∈ g.nodes) (hd : d ∈ g.nodes) :
    d.id ∈ g.dependencies c ↔ Relation.TransGen g.DependsOn c d := by
  rw [mem_dependencies_iff hc]
  constructor
  · rintro ⟨e, reached, same⟩
    obtain ⟨_, -, -, inGraph, -⟩ := Relation.TransGen.tail'_iff.1 reached
    rwa [← eq_of_id_eq inGraph hd same]
  · exact fun reached => ⟨d, reached, rfl⟩

/-- Two members share a component if they are the same or each depends on the other. -/
theorem mem_component_iff (hc : c ∈ g.nodes) :
    d ∈ g.component c ↔ d ∈ g.nodes ∧
      (d = c ∨ (Relation.TransGen g.DependsOn c d ∧ Relation.TransGen g.DependsOn d c)) := by
  rw [component, List.mem_filter, and_congr_right_iff]
  intro hd
  have same : c.id = d.id ↔ d = c := ⟨fun h => eq_of_id_eq hd hc h.symm, fun h => h ▸ rfl⟩
  simp [together, same, mem_dependencies_id_iff hc hd, mem_dependencies_id_iff hd hc]

/-- A component with more than one member is a cycle for each of them. -/
theorem one_lt_length_component_iff (member : c ∈ g.nodes) :
    1 < (g.component c).length ↔ Relation.TransGen g.DependsOn c c := by
  constructor
  · intro several
    by_contra none_back
    have alone : g.component c ⊆ [c] := by
      intro d h
      rcases ((mem_component_iff member).1 h).2 with rfl | ⟨there, back⟩
      · exact List.mem_singleton_self _
      · exact absurd (there.trans back) none_back
    have once : (g.component c).Nodup := g.nodup_nodes.filter _
    have short : (g.component c).length ≤ 1 := (List.subperm_of_subset once alone).length_le
    omega
  · intro back
    obtain ⟨d, step, rest⟩ := Relation.TransGen.head'_iff.1 back
    have different : c ≠ d := fun same => not_dependsOn_self (same ▸ step)
    have home : Relation.TransGen g.DependsOn d c := by
      rcases Relation.reflTransGen_iff_eq_or_transGen.1 rest with same | reached
      · exact absurd same different
      · exact reached
    have both : [c, d] ⊆ g.component c := by
      intro e h
      rw [mem_component_iff member]
      rcases List.mem_cons.1 h with rfl | h
      · exact ⟨member, .inl rfl⟩
      · rw [List.mem_singleton.1 h]
        exact ⟨step.2.1, .inr ⟨.single step, home⟩⟩
    exact (List.subperm_of_subset (by simpa using different) both).length_le

theorem mem_onCycle_iff : c ∈ g.onCycle ↔ Relation.TransGen g.DependsOn c c := by
  rw [onCycle, List.mem_filter, decide_eq_true_eq]
  constructor
  · rintro ⟨member, several⟩
    exact (one_lt_length_component_iff member).1 several
  · intro back
    obtain ⟨_, ⟨member, -, -⟩, -⟩ := Relation.TransGen.head'_iff.1 back
    exact ⟨member, (one_lt_length_component_iff member).2 back⟩

theorem sorted_onCycle (g : ConstraintGraph) :
    (g.onCycle.map Constraint.id).Pairwise (· < ·) :=
  g.set.sorted.sublist (List.filter_sublist.map _)

end Components

theorem order_of_cyclic (cyclic : ¬ g.Acyclic) :
    g.order = .error (.dependencyCycle (g.onCycle.map Constraint.id)) := by
  rw [acyclic_iff] at cyclic
  exact if_pos (Nat.lt_of_not_le cyclic)

theorem exists_dependencyOrder (acyclic : g.Acyclic) :
    ∃ order, g.order = .ok order ∧ g.DependencyOrder order := by
  rw [acyclic_iff] at acyclic
  exact ⟨g.placing.placed, if_neg (Nat.not_lt.2 acyclic), dependencyOrder_placed acyclic⟩

/-- The order of a graph is the one that has the members in order. -/
theorem order_eq_ok_iff {order : List Constraint} :
    g.order = .ok order ↔ g.DependencyOrder order := by
  constructor
  · intro h
    by_cases acyclic : g.Acyclic
    · obtain ⟨placed, found, inOrder⟩ := exists_dependencyOrder acyclic
      cases found.symm.trans h
      exact inOrder
    · cases (order_of_cyclic acyclic).symm.trans h
  · intro h
    obtain ⟨placed, found, inOrder⟩ := exists_dependencyOrder h.acyclic
    have length : placed.length = order.length :=
      inOrder.members.length_eq.trans h.members.length_eq.symm
    rw [found, inOrder.inTurn.eq_of_length_eq g.set.nodup_ids h.inTurn length]

/-- Without a cycle every member is placed, each once. -/
theorem order_of_acyclic {g : ConstraintGraph} (acyclic : g.Acyclic) :
    ∃ order, g.order = .ok order ∧ order.Perm g.nodes := by
  obtain ⟨order, placed, inOrder⟩ := exists_dependencyOrder acyclic
  exact ⟨order, placed, inOrder.members⟩

end ConstraintGraph

end GuidedDecoding
