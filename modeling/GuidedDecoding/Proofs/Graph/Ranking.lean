import GuidedDecoding.Graph.Conflict
import GuidedDecoding.Proofs.Graph.Members
import Mathlib.Data.String.Basic

/-!
# The order in which conflicts are settled

Every two members in conflict make one ranked conflict, the more important side first. Conflicts are
ranked by their stronger sides, then by their weaker sides, then by ids, so whatever a stronger side
could lose against comes before it.
-/

namespace GuidedDecoding

namespace Priority

theorem rank_le (p : Priority) : p.rank ≤ 4 := by
  cases p <;> simp [rank]

end Priority

namespace Conflict

theorem notAfter_iff {x y : Conflict} :
    x.notAfter y = true ↔
      y.high.priority.rank < x.high.priority.rank ∨
      (x.high.priority.rank = y.high.priority.rank ∧
        (y.low.priority.rank < x.low.priority.rank ∨
        (x.low.priority.rank = y.low.priority.rank ∧
          (x.high.id < y.high.id ∨ (x.high.id = y.high.id ∧ x.low.id ≤ y.low.id))))) := by
  unfold notAfter
  simp only [← Priority.rank_inj, ne_eq, Priority.lt_def]
  split
  · simp
    omega
  · split
    · simp
      omega
    · split <;> simp_all

theorem notAfter_trans (x y z : Conflict) (first : x.notAfter y = true)
    (second : y.notAfter z = true) : x.notAfter z = true := by
  rw [notAfter_iff] at first second ⊢
  grind

theorem notAfter_total (x y : Conflict) : (x.notAfter y || y.notAfter x) = true := by
  rw [Bool.or_eq_true, notAfter_iff, notAfter_iff]
  grind

theorem notAfter_refl (x : Conflict) : x.notAfter x = true := by
  simpa using x.notAfter_total x

theorem ofPair_of_lt {c d : Constraint} (lt : d.priority < c.priority) :
    ofPair (c, d) = ⟨c, d⟩ ∧ ofPair (d, c) = ⟨c, d⟩ := by
  have not_lt : ¬ c.priority < d.priority := Nat.lt_asymm lt
  simp [ofPair, lt, not_lt]

theorem ofPair_of_eq {c d : Constraint} (same : c.priority = d.priority) :
    ofPair (c, d) = ⟨c, d⟩ := by
  have not_lt : ¬ c.priority < d.priority := by
    rw [same]
    exact Nat.lt_irrefl _
  simp [ofPair, not_lt]

end Conflict

namespace ConstraintGraph

theorem of_mem_conflictsAmong {l : List Constraint} {c d : Constraint}
    (h : (c, d) ∈ conflictsAmong l) : c ∈ l ∧ d ∈ l ∧ c.conflicts d = true := by
  induction l with
  | nil => simp [conflictsAmong] at h
  | cons e rest ih =>
    rcases List.mem_append.1 h with here | later
    · obtain ⟨f, conflicting, same⟩ := List.mem_map.1 here
      cases same
      obtain ⟨member, declared⟩ := List.mem_filter.1 conflicting
      exact ⟨List.mem_cons_self, List.mem_cons_of_mem _ member, declared⟩
    · obtain ⟨hc, hd, declared⟩ := ih later
      exact ⟨List.mem_cons_of_mem _ hc, List.mem_cons_of_mem _ hd, declared⟩

/-- Of two members in conflict the pair is listed, one way round or the other. -/
theorem mem_conflictsAmong {l : List Constraint} {c d : Constraint} (hc : c ∈ l) (hd : d ∈ l)
    (ne : c ≠ d) (declared : c.conflicts d = true) :
    (c, d) ∈ conflictsAmong l ∨ (d, c) ∈ conflictsAmong l := by
  induction l with
  | nil => simp at hc
  | cons e rest ih =>
    simp only [conflictsAmong, List.mem_append, List.mem_map, List.mem_filter]
    rcases List.mem_cons.1 hc with rfl | hc'
    · rcases List.mem_cons.1 hd with rfl | hd'
      · exact absurd rfl ne
      · exact .inl (.inl ⟨d, ⟨hd', declared⟩, rfl⟩)
    · rcases List.mem_cons.1 hd with rfl | hd'
      · rw [Constraint.conflicts_comm] at declared
        exact .inr (.inl ⟨c, ⟨hc', declared⟩, rfl⟩)
      · exact (ih hc' hd').imp .inr .inr

variable {g : ConstraintGraph} {c d : Constraint} {x y : Conflict}

theorem ne_of_conflicts (hc : c ∈ g.nodes) (declared : c.conflicts d = true) : c ≠ d := by
  rintro rfl
  have itself := not_mem_conflictsWith_self hc
  rw [Constraint.conflicts_iff] at declared
  exact declared.elim itself itself

theorem mem_rankedConflicts :
    x ∈ g.rankedConflicts ↔ ∃ pair ∈ conflictsAmong g.nodes, Conflict.ofPair pair = x := by
  simp only [rankedConflicts, List.mem_mergeSort, List.mem_map, conflicts]

theorem rankedConflicts_pairwise (g : ConstraintGraph) :
    g.rankedConflicts.Pairwise fun x y => x.notAfter y = true :=
  List.pairwise_mergeSort Conflict.notAfter_trans Conflict.notAfter_total _

/-- A ranked conflict is between two members, the first at least as important as the second. -/
theorem of_mem_rankedConflicts (h : x ∈ g.rankedConflicts) :
    x.high ∈ g.nodes ∧ x.low ∈ g.nodes ∧ x.high.conflicts x.low = true ∧
      x.low.priority ≤ x.high.priority := by
  obtain ⟨⟨c, d⟩, listed, rfl⟩ := mem_rankedConflicts.1 h
  obtain ⟨hc, hd, declared⟩ := of_mem_conflictsAmong listed
  unfold Conflict.ofPair
  split
  · next lt => exact ⟨hd, hc, Constraint.conflicts_comm ▸ declared, Nat.le_of_lt lt⟩
  · next not_lt => exact ⟨hc, hd, declared, Nat.le_of_not_lt not_lt⟩

theorem mem_rankedConflicts_of_lt (hc : c ∈ g.nodes) (hd : d ∈ g.nodes)
    (declared : c.conflicts d = true) (lt : d.priority < c.priority) :
    ⟨c, d⟩ ∈ g.rankedConflicts := by
  rw [mem_rankedConflicts]
  rcases mem_conflictsAmong hc hd (ne_of_conflicts hc declared) declared with listed | listed
  · exact ⟨_, listed, (Conflict.ofPair_of_lt lt).1⟩
  · exact ⟨_, listed, (Conflict.ofPair_of_lt lt).2⟩

theorem mem_rankedConflicts_of_eq (hc : c ∈ g.nodes) (hd : d ∈ g.nodes)
    (declared : c.conflicts d = true) (same : c.priority = d.priority) :
    ⟨c, d⟩ ∈ g.rankedConflicts ∨ ⟨d, c⟩ ∈ g.rankedConflicts := by
  rw [mem_rankedConflicts, mem_rankedConflicts]
  rcases mem_conflictsAmong hc hd (ne_of_conflicts hc declared) declared with listed | listed
  · exact .inl ⟨_, listed, Conflict.ofPair_of_eq same⟩
  · exact .inr ⟨_, listed, Conflict.ofPair_of_eq same.symm⟩

/-- When a conflict's turn comes, those that rank strictly before it are done. -/
theorem mem_done_of_not_notAfter {done rest : List Conflict}
    (all : g.rankedConflicts = done ++ x :: rest) (ranked : y ∈ g.rankedConflicts)
    (before : ¬ x.notAfter y = true) : y ∈ done := by
  have sorted := g.rankedConflicts_pairwise
  rw [all] at ranked sorted
  rcases List.mem_append.1 ranked with earlier | now
  · exact earlier
  · rcases List.mem_cons.1 now with rfl | later
    · exact absurd y.notAfter_refl before
    · have tail := (List.pairwise_append.1 sorted).2.1
      exact absurd ((List.pairwise_cons.1 tail).1 y later) before

end ConstraintGraph

end GuidedDecoding
