import GuidedDecoding.Proofs.Graph.Kernel
import GuidedDecoding.Proofs.Graph.Order
import GuidedDecoding.Proofs.Outcome

/-!
# Resolution keeps the kernel

A graph without cycles of dependencies is resolved exactly if no two equally important kept members
conflict. The constraints that are then enforced are the kept members. Every other enforced member
is carried along with the name of the foremost kept member it conflicts with, and has one note that
says the same.
-/

namespace GuidedDecoding

namespace Resolution

/-- A resolution enforces the kept members and accounts for all others. -/
structure KernelOf (g : ConstraintGraph) (r : Resolution) : Prop where
  mem_ordered : ∀ c, c ∈ r.ordered ↔ g.Kept c
  unique : ∀ chosen : Constraint → Prop,
    (∀ c, chosen c ↔ c ∈ g.nodes ∧ c.isEnforced = true ∧
      ∀ d, chosen d → c.priority < d.priority → ¬ c.Rivals d) →
    ∀ c, chosen c ↔ c ∈ r.ordered
  no_rivals : ∀ c ∈ r.ordered, ∀ d ∈ r.ordered, ¬ c.Rivals d
  advised : ∀ e ∈ r.advisory, ∃ c ∈ g.nodes, e.id = c.id ∧ e.priority = c.priority ∧
    (c.isEnforced = true ↔ ∃ id, e.reason = .demoted id)
  demoted_iff : ∀ c ∈ g.nodes, c.isEnforced = true →
    ((∃ id, ⟨c.id, c.priority, .demoted id⟩ ∈ r.advisory) ↔
      ∃ d ∈ r.ordered, c.priority < d.priority ∧ c.Rivals d)
  winner : ∀ c ∈ g.nodes, ∀ id, ⟨c.id, c.priority, .demoted id⟩ ∈ r.advisory →
    ∃ w ∈ r.ordered, w.id = id ∧ c.Rivals w ∧
      ∀ e ∈ r.ordered, c.Rivals e →
        e.priority < w.priority ∨ (e.priority = w.priority ∧ w.id ≤ e.id)
  notes_once : (r.notes.map CompilationNote.demoted).Nodup
  mem_notes : ∀ note, note ∈ r.notes ↔ ∃ c ∈ g.nodes, ∃ w ∈ r.ordered,
    ⟨c.id, c.priority, .demoted w.id⟩ ∈ r.advisory ∧
      note = ⟨w.id, c.id, w.priority, c.priority⟩

section

variable {g : ConstraintGraph} {demotions : List Demotion} {c : Constraint}

theorem reason?_of_hasLoser (lost : Demotion.hasLoser demotions c.id = true) :
    ∃ id, reason? demotions c = some (.demoted id) := by
  unfold reason?
  split
  · exact ⟨_, rfl⟩
  · next none_lost =>
    obtain ⟨d, member, same⟩ := Demotion.hasLoser_iff.1 lost
    exact absurd same (by simpa using List.find?_eq_none.1 none_lost d member)

theorem reason?_of_not_hasLoser (standing : Demotion.hasLoser demotions c.id = false) :
    reason? demotions c = if c.isEnforced then none else some .declared := by
  unfold reason?
  split
  · next d found =>
    have lost : Demotion.hasLoser demotions c.id = true :=
      Demotion.hasLoser_iff.2 ⟨d, List.mem_of_find?_eq_some found,
        by simpa using List.find?_some found⟩
    cases lost.symm.trans standing
  · rfl

theorem reason?_isNone_iff :
    (reason? demotions c).isNone = true ↔
      ¬ Demotion.hasLoser demotions c.id = true ∧ c.isEnforced = true := by
  cases lost : Demotion.hasLoser demotions c.id with
  | true =>
    obtain ⟨id, why⟩ := reason?_of_hasLoser lost
    simp [why]
  | false =>
    rw [reason?_of_not_hasLoser lost]
    cases c.isEnforced <;> simp

/-- The reason of a member that lost is its only demotion. -/
theorem reason?_eq_demoted_iff {id : String}
    (once : (demotions.map fun d => d.loser.id).Nodup) :
    reason? demotions c = some (.demoted id) ↔
      ∃ d ∈ demotions, d.loser.id = c.id ∧ d.winner.id = id := by
  unfold reason?
  split
  · next d found =>
    have member := List.mem_of_find?_eq_some found
    have same : d.loser.id = c.id := by simpa using List.find?_some found
    constructor
    · intro h
      exact ⟨d, member, same, by simpa using h⟩
    · rintro ⟨e, inList, same', rfl⟩
      rw [List.inj_on_of_nodup_map once member inList (same.trans same'.symm)]
  · next none_lost =>
    constructor
    · intro h
      split at h <;> simp at h
    · rintro ⟨d, member, same, -⟩
      exact absurd same (by simpa using List.find?_eq_none.1 none_lost d member)

end

/-- What an order and demotions make of a graph. -/
def assembled (order : List Constraint) (demotions : List Demotion) : Resolution where
  ordered := order.filter fun c => (reason? demotions c).isNone
  advisory := order.filterMap (remark? demotions)
  notes := demotions.map Demotion.note

theorem ofGraph_eq_ok_iff {g : ConstraintGraph} {r : Resolution} :
    ofGraph g = .ok r ↔ ∃ order demotions, g.order = .ok order ∧ g.demotions = .ok demotions ∧
      r = assembled order demotions := by
  simp only [ofGraph, Outcome.bind_eq_ok_iff]
  constructor
  · rintro ⟨order, placed, demotions, settled, same⟩
    exact ⟨order, demotions, placed, settled, (Except.ok.inj same).symm⟩
  · rintro ⟨order, demotions, placed, settled, rfl⟩
    exact ⟨order, placed, demotions, settled, rfl⟩

/-- What a graph is resolved to is taken from its order and its demotions. -/
theorem exists_of_ofGraph {g : ConstraintGraph} {r : Resolution} (h : ofGraph g = .ok r) :
    ∃ order demotions, g.DependencyOrder order ∧ g.Settled g.rankedConflicts demotions ∧
      r = assembled order demotions := by
  obtain ⟨order, demotions, placed, done, same⟩ := ofGraph_eq_ok_iff.1 h
  exact ⟨order, demotions, ConstraintGraph.order_eq_ok_iff.1 placed,
    ConstraintGraph.settled_of_demotions done, same⟩

section

variable {g : ConstraintGraph} {order : List Constraint} {demotions : List Demotion}
  {c : Constraint}

/-- A member that is advice by declaration is in no demotion. -/
theorem reason?_of_advisory (settled : g.Settled g.rankedConflicts demotions)
    (member : c ∈ g.nodes) (advisory : c.isEnforced = false) :
    reason? demotions c = some .declared := by
  have standing : Demotion.hasLoser demotions c.id = false := by
    rw [← Bool.not_eq_true, Demotion.hasLoser_iff]
    rintro ⟨d, inList, same⟩
    have justified := settled.justified d inList
    obtain rfl := ConstraintGraph.eq_of_id_eq justified.loser_mem member same
    rw [justified.rivals.1] at advisory
    cases advisory
  rw [reason?_of_not_hasLoser standing, advisory]
  rfl

theorem mem_ordered_iff (members : order.Perm g.nodes)
    (settled : g.Settled g.rankedConflicts demotions) :
    c ∈ (assembled order demotions).ordered ↔ g.Kept c := by
  simp only [assembled, List.mem_filter, members.mem_iff, reason?_isNone_iff]
  constructor
  · rintro ⟨member, standing, enforced⟩
    by_contra dropped
    exact standing ((settled.hasLoser_final_iff member enforced).2 dropped)
  · intro kept
    exact ⟨kept.mem, fun lost => settled.not_kept_of_hasLoser kept.mem lost kept, kept.isEnforced⟩

/-- The entry of a demoted member names the winner of its demotion. -/
theorem demoted_mem_advisory_iff (members : order.Perm g.nodes)
    (settled : g.Settled g.rankedConflicts demotions) (member : c ∈ g.nodes) {id : String} :
    ⟨c.id, c.priority, .demoted id⟩ ∈ (assembled order demotions).advisory ↔
      ∃ d ∈ demotions, d.loser = c ∧ d.winner.id = id := by
  simp only [assembled, List.mem_filterMap, remark?, Option.map_eq_some_iff]
  constructor
  · rintro ⟨c', placed, reason, found, same⟩
    obtain ⟨sameId, -, rfl⟩ := AdvisoryEntry.mk.inj same
    obtain rfl := ConstraintGraph.eq_of_id_eq (members.subset placed) member sameId
    obtain ⟨d, inList, loser, winner⟩ := (reason?_eq_demoted_iff settled.once).1 found
    have justified := settled.justified d inList
    exact ⟨d, inList, ConstraintGraph.eq_of_id_eq justified.loser_mem member loser, winner⟩
  · rintro ⟨d, inList, rfl, rfl⟩
    exact ⟨d.loser, members.symm.subset member, _,
      (reason?_eq_demoted_iff settled.once).2 ⟨d, inList, rfl, rfl⟩, rfl⟩

theorem advised_of_mem (members : order.Perm g.nodes)
    (settled : g.Settled g.rankedConflicts demotions) {e : AdvisoryEntry}
    (h : e ∈ (assembled order demotions).advisory) :
    ∃ c ∈ g.nodes, e.id = c.id ∧ e.priority = c.priority ∧
      (c.isEnforced = true ↔ ∃ id, e.reason = .demoted id) := by
  obtain ⟨c, placed, found⟩ := List.mem_filterMap.1 h
  obtain ⟨reason, why, rfl⟩ := Option.map_eq_some_iff.1 found
  refine ⟨c, members.subset placed, rfl, rfl, ?_⟩
  constructor
  · intro enforced
    unfold reason? at why
    split at why
    · cases why
      exact ⟨_, rfl⟩
    · simp [enforced] at why
  · rintro ⟨id, rfl⟩
    obtain ⟨d, inList, same, -⟩ := (reason?_eq_demoted_iff settled.once).1 why
    have justified := settled.justified d inList
    have loser : d.loser = c :=
      ConstraintGraph.eq_of_id_eq justified.loser_mem (members.subset placed) same
    exact loser ▸ justified.rivals.1

theorem foremost_winner {d : Demotion} (justified : d.Justified g) {e : Constraint}
    (kept : g.Kept e) (rivals : d.loser.Rivals e) :
    e.priority < d.winner.priority ∨ (e.priority = d.winner.priority ∧ d.winner.id ≤ e.id) := by
  have behind := justified.foremost e kept rivals
  simp only [Constraint.goesBefore, Bool.or_eq_true, Bool.and_eq_true, decide_eq_true_eq,
    not_or, not_and, Priority.lt_def, ← Priority.rank_inj, String.not_lt] at behind ⊢
  obtain ⟨not_above, smaller⟩ := behind
  rcases Nat.lt_or_eq_of_le (Nat.le_of_not_lt not_above) with lt | same
  · exact .inl lt
  · exact .inr ⟨same, smaller same⟩

/-- A member that counts is demoted exactly if a rival of a higher priority is kept. -/
theorem exists_demotion_iff (settled : g.Settled g.rankedConflicts demotions)
    (member : c ∈ g.nodes) (enforced : c.isEnforced = true) :
    (∃ d ∈ demotions, d.loser = c) ↔ ∃ e, g.Kept e ∧ c.priority < e.priority ∧ c.Rivals e := by
  constructor
  · rintro ⟨d, inList, rfl⟩
    have justified := settled.justified d inList
    exact ⟨d.winner, justified.winner_kept, justified.higher, justified.rivals⟩
  · rintro ⟨e, kept, lt, rivals⟩
    have dropped : ¬ g.Kept c := fun stays => stays.not_rivals kept lt rivals
    have lost := (settled.hasLoser_final_iff member enforced).2 dropped
    obtain ⟨d, inList, same⟩ := Demotion.hasLoser_iff.1 lost
    have loser := (settled.justified d inList).loser_mem
    exact ⟨d, inList, ConstraintGraph.eq_of_id_eq loser member same⟩

/-- There is a note for each entry of a demoted member and for nothing else. -/
theorem mem_notes_iff (members : order.Perm g.nodes)
    (settled : g.Settled g.rankedConflicts demotions) {note : CompilationNote} :
    note ∈ (assembled order demotions).notes ↔
      ∃ c ∈ g.nodes, ∃ w ∈ (assembled order demotions).ordered,
        ⟨c.id, c.priority, .demoted w.id⟩ ∈ (assembled order demotions).advisory ∧
          note = ⟨w.id, c.id, w.priority, c.priority⟩ := by
  constructor
  · intro h
    obtain ⟨d, inList, rfl⟩ := List.mem_map.1 h
    have justified := settled.justified d inList
    refine ⟨d.loser, justified.loser_mem, d.winner,
      (mem_ordered_iff members settled).2 justified.winner_kept, ?_, rfl⟩
    exact (demoted_mem_advisory_iff members settled justified.loser_mem).2
      ⟨d, inList, rfl, rfl⟩
  · rintro ⟨c, member, w, stays, entry, rfl⟩
    obtain ⟨d, inList, rfl, sameId⟩ := (demoted_mem_advisory_iff members settled member).1 entry
    have winner : d.winner = w := ConstraintGraph.eq_of_id_eq
      (settled.justified d inList).winner_kept.mem
      ((mem_ordered_iff members settled).1 stays).mem sameId
    refine List.mem_map.2 ⟨d, inList, ?_⟩
    rw [← winner, Demotion.note]

theorem kernelOf_assembled (members : order.Perm g.nodes)
    (settled : g.Settled g.rankedConflicts demotions) :
    KernelOf g (assembled order demotions) where
  mem_ordered c := mem_ordered_iff members settled
  unique chosen kernel c := by
    rw [mem_ordered_iff members settled]
    exact ConstraintGraph.kept_unique kernel c
  no_rivals c hc d hd :=
    settled.not_rivals ((mem_ordered_iff members settled).1 hc)
      ((mem_ordered_iff members settled).1 hd)
  advised e := advised_of_mem members settled
  demoted_iff c member enforced := by
    simp only [demoted_mem_advisory_iff members settled member, mem_ordered_iff members settled]
    rw [← exists_demotion_iff settled member enforced]
    constructor
    · rintro ⟨id, d, inList, loser, -⟩
      exact ⟨d, inList, loser⟩
    · rintro ⟨d, inList, loser⟩
      exact ⟨_, d, inList, loser, rfl⟩
  winner c member id entry := by
    obtain ⟨d, inList, rfl, rfl⟩ := (demoted_mem_advisory_iff members settled member).1 entry
    have justified := settled.justified d inList
    refine ⟨d.winner, (mem_ordered_iff members settled).2 justified.winner_kept, rfl,
      justified.rivals, ?_⟩
    intro e stays rivals
    exact foremost_winner justified ((mem_ordered_iff members settled).1 stays) rivals
  notes_once := by
    have same : (assembled order demotions).notes.map CompilationNote.demoted =
        demotions.map fun d => d.loser.id := by
      simp [assembled, Demotion.note, Function.comp_def]
    rw [same]
    exact settled.once
  mem_notes note := mem_notes_iff members settled

end

/-- A graph without cycles of dependencies is resolved unless two equally important kept members
conflict, which is then the error, and the resolution is the one that the kept members determine. -/
theorem ofGraph_computes_kernel {g : ConstraintGraph} (acyclic : g.Acyclic) :
    (∀ r, ofGraph g = .ok r → KernelOf g r) ∧
      ((∃ a b priority, ofGraph g = .error (.unresolvableConflict a b priority)) ↔
        ∃ c d, g.Tied c d) ∧
      ((∃ r, ofGraph g = .ok r) ↔ ¬ ∃ c d, g.Tied c d) := by
  obtain ⟨order, placed, members⟩ := ConstraintGraph.order_of_acyclic acyclic
  rcases g.demotions_eq with ⟨demotions, done, settled⟩ | ⟨c, d, tied, failed⟩
  · have resolved : ofGraph g = .ok (assembled order demotions) :=
      ofGraph_eq_ok_iff.2 ⟨order, demotions, placed, done, rfl⟩
    have untied : ¬ ∃ c d, g.Tied c d := fun ⟨_, _, tied⟩ => settled.not_tied tied
    refine ⟨?_, ?_, ?_⟩
    · intro r same
      rw [resolved] at same
      cases same
      exact kernelOf_assembled members settled
    · simp [resolved, untied]
    · simp [resolved, untied]
  · have failure : ofGraph g = .error (.unresolvableConflict c.id d.id c.priority.name) := by
      simp [ofGraph, placed, failed, bind, Except.bind]
    have isTied : ∃ c d, g.Tied c d := ⟨c, d, tied⟩
    refine ⟨?_, ?_, ?_⟩
    · simp [failure]
    · simp [failure, isTied]
    · simp [failure, isTied]

/-- Four fields in a chain of conflicts, the last of which needs the first. -/
def chainOfRivals : ConstraintGraph where
  set := {
    members := [(Constraint.ofField "a" .critical "a" .string).conflictingWith "b",
      (Constraint.ofField "b" .high "b" .string).conflictingWith "c",
      (Constraint.ofField "c" .medium "c" .string).conflictingWith "d",
      (Constraint.ofField "d" .low "d" .string).dependingOn "a"]
    sorted := by decide }
  sound := rfl

theorem acyclic_chainOfRivals : chainOfRivals.Acyclic := by
  have only : ∀ c d, chainOfRivals.DependsOn c d → c.id = "d" ∧ d.id = "a" := by
    rintro c d ⟨member, -, needs⟩
    simp only [chainOfRivals, ConstraintGraph.nodes, List.mem_cons, List.not_mem_nil,
      or_false] at member
    rcases member with rfl | rfl | rfl | rfl
    · exact absurd needs (by simp [Constraint.ofField, Constraint.conflictingWith])
    · exact absurd needs (by simp [Constraint.ofField, Constraint.conflictingWith])
    · exact absurd needs (by simp [Constraint.ofField, Constraint.conflictingWith])
    · exact ⟨rfl, by simpa [Constraint.ofField, Constraint.dependingOn] using needs⟩
  intro c back
  obtain ⟨d, first, -⟩ := Relation.TransGen.head'_iff.1 back
  obtain ⟨e, -, last⟩ := Relation.TransGen.tail'_iff.1 back
  exact absurd ((only c d first).1.symm.trans (only e c last).2) (by decide)

theorem chainOfRivals_computes_kernel :
    chainOfRivals.Acyclic ∧ ∃ r, ofGraph chainOfRivals = .ok r ∧ r.notes.length = 2 ∧
      KernelOf chainOfRivals r := by
  have ranked : chainOfRivals.rankedConflicts = chainOfRivals.conflicts.map Conflict.ofPair := by
    apply List.mergeSort_of_pairwise
    decide
  have settled : ∃ demotions, chainOfRivals.demotions = .ok demotions ∧ demotions.length = 2 := by
    rw [ConstraintGraph.demotions, ranked]
    exact ⟨_, rfl, rfl⟩
  obtain ⟨demotions, done, two⟩ := settled
  obtain ⟨order, placed⟩ : ∃ order, chainOfRivals.order = .ok order := ⟨_, rfl⟩
  have resolved := ofGraph_eq_ok_iff.2 ⟨order, demotions, placed, done, rfl⟩
  exact ⟨acyclic_chainOfRivals, _, resolved, by simpa [assembled] using two,
    (ofGraph_computes_kernel acyclic_chainOfRivals).1 _ resolved⟩

end Resolution

end GuidedDecoding
