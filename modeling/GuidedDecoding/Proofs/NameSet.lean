import GuidedDecoding.NameSet
import Mathlib.Data.Set.Card
import Mathlib.Data.String.Basic

/-!
# Sets of names as sets

A set of names has as many members as its list is long, and it is the same set as any other with
those members.
-/

namespace GuidedDecoding

namespace NameSet

theorem nodup (s : NameSet) : s.toList.Nodup := by
  apply List.Pairwise.imp _ s.sorted
  rintro a b lt rfl
  exact String.lt_irrefl a lt

@[simp] theorem mem_singleton {x z : String} : z ∈ singleton x ↔ z = x := by
  simp [singleton]

/-- Sets with the same members are the same. -/
theorem ext_mem {s t : NameSet} (same : ∀ x, x ∈ s ↔ x ∈ t) : s = t := by
  obtain ⟨l, sorted⟩ := s
  obtain ⟨l', sorted'⟩ := t
  have perm : l.Perm l' :=
    (List.perm_ext_iff_of_nodup (nodup ⟨l, sorted⟩) (nodup ⟨l', sorted'⟩)).2 same
  have lists : l = l' := by
    refine perm.eq_of_pairwise ?_ sorted sorted'
    intro a b _ _ lt gt
    exact absurd (String.lt_trans lt gt) (String.lt_irrefl _)
  subst lists
  rfl

/-- The set has as many members as its list. -/
theorem encard_members (s : NameSet) : {x | x ∈ s}.encard = s.toList.length := by
  have same : {x | x ∈ s} = (s.toList.toFinset : Set String) := by
    ext x
    simp [mem_def]
  rw [same, Set.encard_coe_eq_coe_finsetCard, List.toFinset_card_of_nodup s.nodup]

/-- The first name of the list is the smallest member. -/
theorem isLeast_of_toList {s : NameSet} {x : String} {rest : List String}
    (list : s.toList = x :: rest) : IsLeast {z | z ∈ s} x := by
  have sorted := s.sorted
  rw [list] at sorted
  have member_iff (z : String) : z ∈ s ↔ z ∈ x :: rest := by rw [mem_def, list]
  refine ⟨(member_iff x).2 List.mem_cons_self, fun z member => ?_⟩
  rcases List.mem_cons.1 ((member_iff z).1 member) with rfl | later
  · exact Std.le_refl _
  · exact Std.le_of_lt ((List.pairwise_cons.1 sorted).1 z later)

theorem lt_encard_members {limit : Nat} {s : NameSet} (large : limit < s.toList.length) :
    (limit : ℕ∞) < {x | x ∈ s}.encard := by
  rw [encard_members]
  exact_mod_cast large

end NameSet

end GuidedDecoding
