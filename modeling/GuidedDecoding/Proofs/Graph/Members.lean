import GuidedDecoding.Graph.Basic
import Mathlib.Data.List.Nodup

/-!
# Members of sets and graphs

Members of a set are told apart by their ids. Members of a graph make sense by themselves, and what
they refer to is the id of a member.
-/

namespace GuidedDecoding

namespace Constraint

/-- A constraint makes sense by itself when it passes every check. -/
theorem fault?_eq_none_iff {c : Constraint} :
    c.fault? = none ↔ Text.allBlank c.id = false ∧ c.hasProperConfidence = true ∧
      c.enforcement.accepts c.payload = true ∧ ¬ c.id ∈ c.dependsOn ∧ ¬ c.id ∈ c.conflictsWith := by
  unfold fault?
  repeat' split
  all_goals simp_all

theorem conflicts_iff {c d : Constraint} :
    c.conflicts d = true ↔ d.id ∈ c.conflictsWith ∨ c.id ∈ d.conflictsWith := by
  simp [conflicts]

theorem conflicts_comm {c d : Constraint} : c.conflicts d = d.conflicts c := by
  simp [conflicts, Bool.or_comm]

end Constraint

namespace ConstraintSet

variable {s : ConstraintSet}

theorem nodup_ids (s : ConstraintSet) : s.ids.Nodup := by
  apply List.Pairwise.imp _ s.sorted
  rintro a b lt rfl
  exact String.lt_irrefl a lt

theorem eq_of_id_eq {c d : Constraint} (hc : c ∈ s.members) (hd : d ∈ s.members)
    (same : c.id = d.id) : c = d :=
  List.inj_on_of_nodup_map s.nodup_ids hc hd same

theorem get?_eq_some_iff {id : String} {c : Constraint} :
    s.get? id = some c ↔ c ∈ s.members ∧ c.id = id := by
  constructor
  · intro found
    exact ⟨List.mem_of_find?_eq_some found, by simpa using List.find?_some found⟩
  · rintro ⟨member, rfl⟩
    have hit : (s.get? c.id).isSome = true :=
      List.find?_isSome.2 ⟨c, member, by simp⟩
    obtain ⟨d, found⟩ := Option.isSome_iff_exists.1 hit
    have same : d.id = c.id := by simpa using List.find?_some found
    rw [found, eq_of_id_eq (List.mem_of_find?_eq_some found) member same]

theorem contains_iff {id : String} : s.contains id = true ↔ id ∈ s.ids := by
  simp only [contains, Option.isSome_iff_exists, get?_eq_some_iff, ids, List.mem_map]

theorem invalid?_eq_none_iff : s.invalid? = none ↔ ∀ c ∈ s.members, c.fault? = none := by
  simp only [invalid?, List.findSome?_eq_none_iff, Option.map_eq_none_iff]

theorem dangling?_eq_none_iff :
    s.dangling? = none ↔ ∀ c ∈ s.members, ∀ id ∈ c.references, id ∈ s.ids := by
  simp only [dangling?, List.findSome?_eq_none_iff, Option.map_eq_none_iff, List.find?_eq_none,
    Bool.not_eq_true', Bool.not_eq_false, contains_iff]

/-- A set is a graph when its members make sense and refer to members only. -/
theorem fault?_eq_none_iff :
    s.fault? = none ↔ (∀ c ∈ s.members, c.fault? = none) ∧
      ∀ c ∈ s.members, ∀ id ∈ c.references, id ∈ s.ids := by
  rw [fault?, Option.or_eq_none_iff, invalid?_eq_none_iff, dangling?_eq_none_iff]

end ConstraintSet

namespace ConstraintGraph

variable {g : ConstraintGraph} {c d : Constraint}

theorem eq_of_id_eq (hc : c ∈ g.nodes) (hd : d ∈ g.nodes) (same : c.id = d.id) : c = d :=
  ConstraintSet.eq_of_id_eq hc hd same

theorem fault?_eq_none (h : c ∈ g.nodes) : c.fault? = none :=
  (ConstraintSet.fault?_eq_none_iff.1 g.sound).1 c h

theorem mem_ids_of_reference {id : String} (h : c ∈ g.nodes) (refers : id ∈ c.references) :
    id ∈ g.set.ids :=
  (ConstraintSet.fault?_eq_none_iff.1 g.sound).2 c h id refers

/-- What a member depends on is a member. -/
theorem exists_dependency {id : String} (h : c ∈ g.nodes) (needs : id ∈ c.dependsOn) :
    ∃ d ∈ g.nodes, d.id = id :=
  List.mem_map.1 (mem_ids_of_reference h (List.mem_append_left _ needs))

theorem not_mem_conflictsWith_self (h : c ∈ g.nodes) : ¬ c.id ∈ c.conflictsWith :=
  (Constraint.fault?_eq_none_iff.1 (fault?_eq_none h)).2.2.2.2

end ConstraintGraph

end GuidedDecoding
