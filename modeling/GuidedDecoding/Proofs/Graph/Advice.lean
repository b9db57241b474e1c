import GuidedDecoding.Proofs.Graph.ResolvedOrder

/-!
# Advice takes no part

Conflicts are settled between enforced members, so the demotions of a graph depend on its enforced
members alone. A member on which no other depends may be taken out of an order without a change to
the order of the others. An advisory member that nothing depends on therefore adds one remark to
what a graph is resolved to, and nothing else (`Resolution.ofGraph_eq_without`).
-/

namespace GuidedDecoding

namespace Placing

variable {nodes placed order : List Constraint} {picked : Constraint → Bool} {c : Constraint}

/-- Among members that are picked with whatever they depend on, the same are free as among all. -/
theorem free_filter_iff (distinct : (nodes.map Constraint.id).Nodup)
    (closed : ∀ c ∈ nodes, picked c = true → ∀ d ∈ nodes, d.id ∈ c.dependsOn → picked d = true)
    (within : ∀ d ∈ placed, d ∈ nodes) :
    Free (nodes.filter picked) (placed.filter picked) c ↔ Free nodes placed c ∧ picked c = true := by
  have early : ∀ id ∈ (placed.filter picked).map Constraint.id, id ∈ placed.map Constraint.id :=
    fun _ h => (List.filter_sublist.map _).subset h
  have kept : ∀ d ∈ nodes, picked d = true → d.id ∈ placed.map Constraint.id →
      d.id ∈ (placed.filter picked).map Constraint.id := by
    intro d member pick h
    obtain ⟨e, before, same⟩ := List.mem_map.1 h
    obtain rfl := List.inj_on_of_nodup_map distinct (within e before) member same
    exact List.mem_map_of_mem (List.mem_filter.2 ⟨before, pick⟩)
  constructor
  · rintro ⟨member, new, met⟩
    obtain ⟨member, pick⟩ := List.mem_filter.1 member
    exact ⟨⟨member, fun h => new (kept c member pick h), fun id needs => early id (met id needs)⟩,
      pick⟩
  · rintro ⟨⟨member, new, met⟩, pick⟩
    refine ⟨List.mem_filter.2 ⟨member, pick⟩, fun h => new (early _ h), fun id needs => ?_⟩
    obtain ⟨d, before, rfl⟩ := List.mem_map.1 (met id needs)
    have inNodes := within d before
    exact kept d inNodes (closed c member pick d inNodes needs) (met _ needs)

/-- In an order of some members those that are picked are in order by themselves, if whatever a
picked one depends on is picked, too. -/
theorem InTurn.filter (distinct : (nodes.map Constraint.id).Nodup)
    (closed : ∀ c ∈ nodes, picked c = true → ∀ d ∈ nodes, d.id ∈ c.dependsOn → picked d = true)
    (h : InTurn nodes order) : InTurn (nodes.filter picked) (order.filter picked) := by
  intro before c after split
  obtain ⟨first, last, rfl, rfl, fromHere⟩ := List.filter_eq_append_iff.1 split
  obtain ⟨skipped, rest, rfl, passedOver, pick, rfl⟩ := List.filter_eq_cons_iff.1 fromHere
  obtain ⟨free, foremost⟩ := h (first ++ skipped) c rest (by simp)
  have within : ∀ d ∈ first ++ skipped, d ∈ nodes := by
    intro d early
    refine h.mem ?_
    rw [← List.append_assoc]
    exact List.mem_append_left _ early
  have same : first.filter picked = (first ++ skipped).filter picked := by
    rw [List.filter_append, List.filter_eq_nil_iff.2 passedOver, List.append_nil]
  rw [same]
  refine ⟨(free_filter_iff distinct closed within).2 ⟨free, pick⟩, fun d free' different => ?_⟩
  exact foremost d ((free_filter_iff distinct closed within).1 free').1 different

end Placing

namespace Conflict

theorem isLive_ofPair (pair : Constraint × Constraint) :
    (ofPair pair).isLive = (pair.1.isEnforced && pair.2.isEnforced) := by
  unfold ofPair
  split
  · exact Bool.and_comm _ _
  · rfl

/-- Conflicts that are settled no later than each other are between the same ids. -/
theorem ids_eq_of_notAfter {x y : Conflict} (first : x.notAfter y = true)
    (second : y.notAfter x = true) : x.high.id = y.high.id ∧ x.low.id = y.low.id := by
  rw [notAfter_iff] at first second
  grind

end Conflict

namespace ConstraintGraph

theorem settle_filter_isLive (ranked : List Conflict) (settled : List Demotion) :
    settle (ranked.filter Conflict.isLive) settled = settle ranked settled := by
  induction ranked generalizing settled with
  | nil => rfl
  | cons x rest ih =>
    by_cases live : x.isLive = true
    · rw [List.filter_cons_of_pos live, settle, settle]
      simp only [ih]
    · rw [List.filter_cons_of_neg live, settle, ih]
      simp [live]

theorem filter_conflictsAmong (picked : Constraint → Bool) (l : List Constraint) :
    (conflictsAmong l).filter (fun pair => picked pair.1 && picked pair.2) =
      conflictsAmong (l.filter picked) := by
  induction l with
  | nil => rfl
  | cons c rest ih =>
    rw [conflictsAmong, List.filter_append, ih, List.filter_map, List.filter_filter]
    by_cases pick : picked c = true
    · rw [List.filter_cons_of_pos pick, conflictsAmong, List.filter_filter]
      simp [pick, Bool.and_comm]
    · rw [List.filter_cons_of_neg pick]
      simp [pick]

variable {g g' : ConstraintGraph}

/-- The conflicts that are settled are those among the enforced members. -/
theorem filter_rankedConflicts_perm (g : ConstraintGraph) :
    (g.rankedConflicts.filter Conflict.isLive).Perm
      ((conflictsAmong (g.nodes.filter Constraint.isEnforced)).map Conflict.ofPair) := by
  rw [← filter_conflictsAmong, ← funext Conflict.isLive_ofPair]
  refine ((List.mergeSort_perm _ _).filter _).trans ?_
  rw [List.filter_map]
  exact .refl _

/-- Graphs with the same enforced members have the same demotions. -/
theorem demotions_congr
    (same : g.nodes.filter Constraint.isEnforced = g'.nodes.filter Constraint.isEnforced) :
    g.demotions = g'.demotions := by
  have perm : (g.rankedConflicts.filter Conflict.isLive).Perm
      (g'.rankedConflicts.filter Conflict.isLive) :=
    (same ▸ g.filter_rankedConflicts_perm).trans g'.filter_rankedConflicts_perm.symm
  have ranked : g.rankedConflicts.filter Conflict.isLive =
      g'.rankedConflicts.filter Conflict.isLive := by
    refine perm.eq_of_pairwise ?_ (g.rankedConflicts_pairwise.filter _)
      (g'.rankedConflicts_pairwise.filter _)
    intro x y hx hy first second
    obtain ⟨highX, lowX, -⟩ := of_mem_rankedConflicts (List.mem_filter.1 hx).1
    obtain ⟨highY, lowY, -⟩ := of_mem_rankedConflicts (List.mem_filter.1 (perm.symm.subset hy)).1
    obtain ⟨sameHigh, sameLow⟩ := Conflict.ids_eq_of_notAfter first second
    cases x
    cases y
    rw [Conflict.mk.injEq]
    exact ⟨eq_of_id_eq highX highY sameHigh, eq_of_id_eq lowX lowY sameLow⟩
  rw [demotions, demotions, ← settle_filter_isLive, ranked, settle_filter_isLive]

/-- A graph has one more member than another, an advisory one that no member depends on. -/
structure Advises (a : Constraint) (g g' : ConstraintGraph) : Prop where
  nodes : g.nodes = g'.nodes.filter fun c => c.id ≠ a.id
  mem : a ∈ g'.nodes
  advisory : a.isEnforced = false
  unneeded : ∀ c ∈ g'.nodes, ¬ a.id ∈ c.dependsOn

namespace Advises

variable {a c d : Constraint}

theorem mem_nodes_iff (h : Advises a g g') : c ∈ g.nodes ↔ c ∈ g'.nodes ∧ c ≠ a := by
  rw [h.nodes, List.mem_filter, decide_eq_true_eq]
  refine and_congr_right fun member => not_congr ⟨fun same => ?_, congrArg _⟩
  exact eq_of_id_eq member h.mem same

theorem demotions_eq (h : Advises a g g') : g.demotions = g'.demotions := by
  apply demotions_congr
  rw [h.nodes, List.filter_filter]
  refine List.filter_congr fun c member => ?_
  rw [Bool.and_eq_left_iff_imp, decide_eq_true_eq]
  rintro enforced same
  rw [eq_of_id_eq member h.mem same, h.advisory] at enforced
  cases enforced

theorem dependsOn_iff (h : Advises a g g') : g.DependsOn c d ↔ g'.DependsOn c d ∧ c ≠ a := by
  simp only [DependsOn, h.mem_nodes_iff]
  constructor
  · rintro ⟨⟨hc, ne⟩, ⟨hd, -⟩, needs⟩
    exact ⟨⟨hc, hd, needs⟩, ne⟩
  · rintro ⟨⟨hc, hd, needs⟩, ne⟩
    refine ⟨⟨hc, ne⟩, ⟨hd, ?_⟩, needs⟩
    rintro rfl
    exact h.unneeded c hc needs

/-- The new member is on no cycle, since nothing leads to it. -/
theorem transGen_iff (h : Advises a g g') :
    Relation.TransGen g.DependsOn c d ↔ Relation.TransGen g'.DependsOn c d ∧ c ≠ a := by
  constructor
  · intro reached
    obtain ⟨e, step, -⟩ := Relation.TransGen.head'_iff.1 reached
    exact ⟨reached.lift id fun _ _ step => (h.dependsOn_iff.1 step).1,
      (h.dependsOn_iff.1 step).2⟩
  · rintro ⟨reached, ne⟩
    induction reached with
    | single step => exact .single (h.dependsOn_iff.2 ⟨step, ne⟩)
    | @tail e _ _ step ih =>
      refine ih.tail (h.dependsOn_iff.2 ⟨step, ?_⟩)
      obtain ⟨_, -, last⟩ := Relation.TransGen.tail'_iff.1 ih
      exact (h.mem_nodes_iff.1 last.2.1).2

theorem transGen_self_iff (h : Advises a g g') :
    Relation.TransGen g.DependsOn c c ↔ Relation.TransGen g'.DependsOn c c := by
  rw [h.transGen_iff, and_iff_left_iff_imp]
  rintro back rfl
  obtain ⟨_, -, last⟩ := Relation.TransGen.tail'_iff.1 back
  exact h.unneeded _ last.1 last.2.2

theorem onCycle_eq (h : Advises a g g') :
    g.onCycle.map Constraint.id = g'.onCycle.map Constraint.id := by
  refine List.Perm.eq_of_pairwise (fun x y _ _ lt gt => ?_) g.sorted_onCycle g'.sorted_onCycle
    (List.Perm.map _ ?_)
  · exact absurd (String.lt_trans lt gt) (String.lt_irrefl _)
  · refine (List.perm_ext_iff_of_nodup (g.nodup_nodes.filter _) (g'.nodup_nodes.filter _)).2 ?_
    intro c
    exact mem_onCycle_iff.trans (h.transGen_self_iff.trans mem_onCycle_iff.symm)

/-- The order of the other members is the same with the new member and without it. -/
theorem order_eq (h : Advises a g g') :
    g.order = g'.order.map fun order => order.filter fun c => c.id ≠ a.id := by
  by_cases acyclic : g'.Acyclic
  · obtain ⟨order, placed, inOrder⟩ := exists_dependencyOrder acyclic
    rw [placed, Except.map, order_eq_ok_iff]
    refine dependencyOrder_of_inTurn (h.nodes ▸ inOrder.members.filter _) ?_
    rw [h.nodes]
    refine inOrder.inTurn.filter g'.set.nodup_ids fun c member _ d _ needs => ?_
    rw [decide_eq_true_eq]
    intro same
    exact h.unneeded c member (same ▸ needs)
  · have cyclic : ¬ g.Acyclic := fun none_back =>
      acyclic fun c back => none_back c (h.transGen_self_iff.2 back)
    rw [order_of_cyclic acyclic, order_of_cyclic cyclic, h.onCycle_eq, Except.map]

end Advises

end ConstraintGraph

namespace Resolution

open ConstraintGraph

/-- A resolution without the remark about one constraint. -/
def without (r : Resolution) (id : String) : Resolution :=
  { r with advisory := r.advisory.filter fun e => e.id ≠ id }

theorem assembled_without {order : List Constraint} {demotions : List Demotion} {id : String}
    (remarked : ∀ c ∈ order, c.id = id → ¬ (reason? demotions c).isNone = true) :
    assembled (order.filter fun c => c.id ≠ id) demotions =
      (assembled order demotions).without id := by
  simp only [assembled, without, mk.injEq, and_true]
  constructor
  · rw [List.filter_filter]
    refine List.filter_congr fun c member => ?_
    rw [Bool.and_eq_left_iff_imp, decide_eq_true_eq]
    exact fun free same => remarked c member same free
  · rw [List.filterMap_filter, List.filter_filterMap]
    refine List.filterMap_congr fun c _ => ?_
    cases why : reason? demotions c with
    | none => simp [remark?, why]
    | some reason => simp [remark?, why, Option.filter]

variable {g g' : ConstraintGraph} {a : Constraint} {r : Resolution}

/-- One more advisory member makes no difference but for the remark about it. -/
theorem ofGraph_eq_without (h : g.Advises a g') :
    ofGraph g = (ofGraph g').map fun r => r.without a.id := by
  rw [ofGraph, ofGraph, h.order_eq, h.demotions_eq]
  cases placed : g'.order with
  | error e => rfl
  | ok order =>
    cases done : g'.demotions with
    | error e => rfl
    | ok demotions =>
      refine congrArg Except.ok (assembled_without fun c early same free => ?_)
      have member := (order_eq_ok_iff.1 placed).members.subset early
      rw [eq_of_id_eq member h.mem same,
        reason?_of_advisory (settled_of_demotions done) h.mem h.advisory] at free
      cases free

/-- A member that is advice by declaration has one remark, which takes no part in the others. -/
theorem advisory_eq_of_declared (resolved : ofGraph g = .ok r) (member : a ∈ g.nodes)
    (advisory : a.isEnforced = false) :
    ∃ before after, r.advisory = before ++ ⟨a.id, a.priority, .declared⟩ :: after ∧
      (r.without a.id).advisory = before ++ after := by
  have remarked : ⟨a.id, a.priority, .declared⟩ ∈ r.advisory := by
    obtain ⟨order, demotions, inOrder, settled, rfl⟩ := exists_of_ofGraph resolved
    refine List.mem_filterMap.2 ⟨a, inOrder.members.symm.subset member, ?_⟩
    rw [remark?, reason?_of_advisory settled member advisory, Option.map_some]
  obtain ⟨before, after, split⟩ := List.append_of_mem remarked
  have once := (List.nodup_append.1 (nodup_of_ofGraph resolved)).2.1
  rw [split, List.map_append, List.map_cons, List.nodup_middle, List.nodup_cons,
    ← List.map_append] at once
  refine ⟨before, after, split, ?_⟩
  have others : ∀ e ∈ before ++ after, decide (e.id ≠ a.id) = true := by
    intro e inRest
    rw [decide_eq_true_eq]
    exact fun same => once.1 (List.mem_map.2 ⟨e, inRest, same⟩)
  rw [without, split, List.filter_append, List.filter_cons_of_neg (by simp),
    ← List.filter_append, List.filter_eq_self.2 others]

end Resolution

end GuidedDecoding
