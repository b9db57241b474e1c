import GuidedDecoding.Grammar.Ambiguity
import Mathlib.Data.List.Pairwise

/-!
# When the next character decides

No ambiguity is found among the choices of a rule exactly when any two of them are told apart: they
share no first character, they are not both empty, and where one of them is empty the other starts
with nothing that can follow the rule.
-/

namespace GuidedDecoding

/-- The next character tells which of two alternatives to take, given what each can start with and
what can come after them. -/
structure ToldApart (after one other : List (Option Char)) : Prop where
  disjoint : ∀ c, some c ∈ one → ¬ some c ∈ other
  notBothEmpty : ¬ (none ∈ one ∧ none ∈ other)
  oneEmpty : none ∈ one → ∀ c, some c ∈ other → ¬ some c ∈ after
  otherEmpty : none ∈ other → ∀ c, some c ∈ one → ¬ some c ∈ after

theorem ToldApart.symm {after one other : List (Option Char)} (h : ToldApart after one other) :
    ToldApart after other one where
  disjoint c first shared := h.disjoint c shared first
  notBothEmpty both := h.notBothEmpty both.symm
  oneEmpty := h.otherEmpty
  otherEmpty := h.oneEmpty

instance (after : List (Option Char)) :
    Std.Symm fun c d : Choice => ToldApart after c.starts d.starts := ⟨fun _ _ h => h.symm⟩

namespace Choice

theorem least?_eq_none_iff {l : List Char} : least? l = none ↔ l = [] := by
  cases l with
  | nil => simp [least?]
  | cons c rest =>
    simp only [least?]
    split
    · split <;> simp
    · simp

theorem common?_eq_none_iff {c : Choice} {others : List (Option Char)} :
    c.common? others = none ↔ ∀ ch, some ch ∈ c.starts → ¬ some ch ∈ others := by
  simp only [common?, least?_eq_none_iff, List.filterMap_eq_nil_iff, List.mem_filter,
    List.contains_eq_mem, decide_eq_true_eq, id_eq]
  constructor
  · intro nothing ch first shared
    exact absurd (nothing (some ch) ⟨first, shared⟩) (by simp)
  · intro apart x ⟨first, shared⟩
    cases x with
    | none => rfl
    | some ch => exact absurd shared (apart ch first)

theorem isEmpty_iff {c : Choice} : c.isEmpty = true ↔ none ∈ c.starts := by
  simp [isEmpty]

theorem sharedStart?_eq_none_iff {choices : List Choice} :
    sharedStart? choices = none ↔
      choices.Pairwise fun c d => ∀ ch, some ch ∈ c.starts → ¬ some ch ∈ d.starts := by
  induction choices with
  | nil => simp [sharedStart?]
  | cons c rest ih =>
    rw [List.pairwise_cons, ← ih]
    simp only [sharedStart?]
    split
    · next found eq =>
      constructor
      · simp
      · rintro ⟨apart, -⟩
        obtain ⟨d, member, hit⟩ := List.exists_of_findSome?_eq_some eq
        rw [common?_eq_none_iff.2 (apart d member)] at hit
        exact absurd hit (by simp)
    · next eq =>
      have apart : ∀ d ∈ rest, ∀ ch, some ch ∈ c.starts → ¬ some ch ∈ d.starts := by
        intro d member
        have miss := List.findSome?_eq_none_iff.1 eq d member
        exact common?_eq_none_iff.1 (Option.map_eq_none_iff.1 miss)
      exact ⟨fun none_later => ⟨apart, none_later⟩, fun both => both.2⟩

theorem startFollows?_eq_none_iff {after : List (Option Char)} {empty : Choice}
    {others : List Choice} :
    startFollows? after empty others = none ↔
      ∀ d ∈ others, ∀ ch, some ch ∈ d.starts → ¬ some ch ∈ after := by
  simp only [startFollows?, List.findSome?_eq_none_iff, Option.map_eq_none_iff,
    common?_eq_none_iff]

/-- At most one choice can be empty exactly when no two of them can. -/
theorem length_filter_isEmpty_le_one_iff {choices : List Choice} :
    (choices.filter isEmpty).length ≤ 1 ↔
      choices.Pairwise fun c d => ¬ (none ∈ c.starts ∧ none ∈ d.starts) := by
  have pairs : choices.Pairwise (fun c d => ¬ (none ∈ c.starts ∧ none ∈ d.starts)) ↔
      (choices.filter isEmpty).Pairwise fun _ _ => False := by
    simp only [List.pairwise_filter, isEmpty_iff, not_and]
  rw [pairs]
  match choices.filter isEmpty with
  | [] => simp
  | [_] => simp
  | c :: d :: rest =>
    constructor
    · simp
    · intro none_two
      exact (List.rel_of_pairwise_cons none_two List.mem_cons_self).elim

/-- No ambiguity is found exactly when no two choices share a first character, at most one can be
empty, and what can follow the empty one starts none of the others. -/
theorem ambiguity?_eq_none_iff_parts {after : List (Option Char)} {choices : List Choice} :
    ambiguity? after choices = none ↔
      sharedStart? choices = none ∧ (choices.filter isEmpty).length ≤ 1 ∧
      ∀ c ∈ choices, none ∈ c.starts → ∀ d ∈ choices, ¬ none ∈ d.starts →
        ∀ ch, some ch ∈ d.starts → ¬ some ch ∈ after := by
  have chosen : ∀ c, c ∈ choices.filter isEmpty ↔ c ∈ choices ∧ none ∈ c.starts := by
    simp [List.mem_filter, isEmpty_iff]
  have unchosen : ∀ d, d ∈ choices.filter (fun d => !d.isEmpty) ↔
      d ∈ choices ∧ ¬ none ∈ d.starts := by
    simp [List.mem_filter, isEmpty]
  unfold ambiguity?
  split
  · next shared => simp [shared]
  · next apart =>
    simp only [apart, true_and]
    split
    · next shape =>
      have none_empty : ∀ c ∈ choices, ¬ none ∈ c.starts := by
        intro c member empty
        have kept := (chosen c).2 ⟨member, empty⟩
        simp [shape] at kept
      simp only [shape, List.length_nil, Nat.zero_le, true_and, true_iff]
      exact fun c member empty => absurd empty (none_empty c member)
    · next empty shape =>
      have only : empty ∈ choices ∧ none ∈ empty.starts := by
        rw [← chosen, shape, List.mem_singleton]
      simp only [shape, List.length_singleton, Nat.le_refl, true_and,
        startFollows?_eq_none_iff]
      constructor
      · exact fun clear _ _ _ d hd full => clear d ((unchosen d).2 ⟨hd, full⟩)
      · intro clear d other
        obtain ⟨hd, full⟩ := (unchosen d).1 other
        exact clear empty only.1 only.2 d hd full
    · next several some_shape more_shape =>
      match shape : choices.filter isEmpty with
      | [] => exact absurd shape some_shape
      | [empty] => exact absurd shape (more_shape empty)
      | _ :: _ :: _ => simp

/-- No ambiguity is found exactly when all choices are told apart. -/
theorem ambiguity?_eq_none_iff {after : List (Option Char)} {choices : List Choice} :
    ambiguity? after choices = none ↔
      choices.Pairwise fun c d => ToldApart after c.starts d.starts := by
  rw [ambiguity?_eq_none_iff_parts, sharedStart?_eq_none_iff, length_filter_isEmpty_le_one_iff]
  constructor
  · rintro ⟨disjoint, few, unfollowed⟩
    refine (List.Pairwise.and_mem.1 (disjoint.and few)).imp ?_
    rintro c d ⟨hc, hd, apart, notBoth⟩
    exact {
      disjoint := apart
      notBothEmpty := notBoth
      oneEmpty := fun empty => unfollowed c hc empty d hd fun other => notBoth ⟨empty, other⟩
      otherEmpty := fun empty => unfollowed d hd empty c hc fun one => notBoth ⟨one, empty⟩ }
  · intro apart
    refine ⟨apart.imp fun h => h.disjoint, apart.imp fun h => h.notBothEmpty, ?_⟩
    intro c hc empty d hd full
    have ne : c ≠ d := by
      rintro rfl
      exact full empty
    exact (apart.forall hc hd ne).oneEmpty empty

end Choice

end GuidedDecoding
