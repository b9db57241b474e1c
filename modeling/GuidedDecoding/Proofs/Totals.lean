import Mathlib.Algebra.BigOperators.Group.List.Basic
import Mathlib.Algebra.Ring.Nat

/-!
# Totals over a list

A member that takes the place of another one trades its share of a total for that of the other. The
number of members with a property is such a total.
-/

namespace GuidedDecoding

variable {α : Type} {l : List α} {p q r : α → Bool} {i : Nat} {x : α}

/-- Replacing a member of a list trades its share of a sum. -/
theorem sum_map_set (f : α → Nat) (here : l[i]? = some x) (y : α) :
    ((l.set i y).map f).sum + f x = (l.map f).sum + f y := by
  induction l generalizing i with
  | nil => cases here
  | cons z l ih =>
    cases i with
    | zero =>
      obtain rfl := Option.some.inj here
      simp only [List.set_cons_zero, List.map_cons, List.sum_cons]
      omega
    | succ i =>
      have := ih here
      simp only [List.set_cons_succ, List.map_cons, List.sum_cons]
      omega

theorem countP_eq_sum (p : α → Bool) (l : List α) :
    l.countP p = (l.map fun x => (p x).toNat).sum := by
  induction l with
  | nil => rfl
  | cons x l ih =>
    rw [List.countP_cons, ih, List.map_cons, List.sum_cons, Nat.add_comm]
    cases p x <;> rfl

theorem countP_set_add (p : α → Bool) (here : l[i]? = some x) (y : α) :
    (l.set i y).countP p + (p x).toNat = l.countP p + (p y).toNat := by
  rw [countP_eq_sum, countP_eq_sum]
  exact sum_map_set (fun x => (p x).toNat) here y

/-- If each member with one property has just one of two others, these are counted together. -/
theorem countP_eq_add (split : ∀ x ∈ l, (p x).toNat = (q x).toNat + (r x).toNat) :
    l.countP p = l.countP q + l.countP r := by
  simp only [countP_eq_sum, ← List.sum_map_add, List.map_congr_left split]

end GuidedDecoding
