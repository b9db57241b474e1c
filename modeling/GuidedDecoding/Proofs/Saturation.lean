import GuidedDecoding.Saturation
import Mathlib.Data.List.Dedup
import Mathlib.Data.List.Perm.Subperm
import Mathlib.Logic.Relation

/-!
# What rounds find, and how many there are

A round that reports no change has found nothing, and one that reports a change knows more than
before. When everything that can be found comes from a finite stock, each round but the last takes
something new from it, so the loop that makes rounds as long as they change something comes to an
end, after at most one round more than the stock has members that were not known at first. Another
round would change nothing, and whatever a look finds then is known. What holds of the first facts
and is passed on by every look holds of the whole result.

Exploring finds exactly what can be reached. A round looks only at what the round before has found,
since all that leads on from anything older has been found by then.
-/

namespace GuidedDecoding

section Saturation

variable {α β : Type}

/-! ### One round -/

theorem unseen_eq_nil_iff [DecidableEq α] {known found : List α} :
    unseen known found = [] ↔ found ⊆ known := by
  rw [List.eq_nil_iff_forall_not_mem, List.subset_def]
  refine forall_congr' fun x => ?_
  rw [mem_unseen, not_and_not_right]

namespace Round

variable {r : Round α} {known found : List α}

/-- A round that began with some facts: as long as it reports no change it knows just these, a
change means that there are more of them, and none of them comes twice. -/
structure BuildsOn (r : Round α) (known : List α) : Prop where
  same : r.changed = false → r.known = known
  grows : r.changed = true → known.length < r.known.length
  nodup : known.Nodup → r.known.Nodup

theorem buildsOn_start : BuildsOn ⟨known, false⟩ known where
  same _ := rfl
  grows changed := absurd changed Bool.false_ne_true
  nodup once := once

theorem BuildsOn.length_le (h : r.BuildsOn known) : known.length ≤ r.known.length := by
  cases changed : r.changed with
  | false => exact Nat.le_of_eq (congrArg List.length (h.same changed).symm)
  | true => exact Nat.le_of_lt (h.grows changed)

variable [DecidableEq α]

theorem known_note : (r.note found).known = r.known ++ unseen r.known found := by
  unfold note
  dsimp only
  split
  · next none_fresh => rw [List.isEmpty_iff.1 none_fresh, List.append_nil]
  · rfl

theorem note_eq_self (nothing : found ⊆ r.known) : r.note found = r := by
  simp [note, unseen_eq_nil_iff.2 nothing]

theorem note_unchanged_iff :
    (r.note found).changed = false ↔ r.changed = false ∧ found ⊆ r.known := by
  by_cases nothing : found ⊆ r.known
  · simp [note_eq_self nothing, nothing]
  · simp [note, List.isEmpty_iff, unseen_eq_nil_iff, nothing]

theorem BuildsOn.note (h : r.BuildsOn known) : (r.note found).BuildsOn known := by
  refine ⟨fun unchanged => ?_, fun changed => ?_, fun once => ?_⟩
  · obtain ⟨before, nothing⟩ := note_unchanged_iff.1 unchanged
    rw [note_eq_self nothing]
    exact h.same before
  · by_cases nothing : found ⊆ r.known
    · rw [note_eq_self nothing] at changed ⊢
      exact h.grows changed
    · have fresh : 0 < (unseen r.known found).length :=
        List.length_pos_iff.2 (mt unseen_eq_nil_iff.1 nothing)
      have before := h.length_le
      rw [known_note, List.length_append]
      omega
  · rw [known_note]
    exact nodup_append_unseen (h.nodup once)

end Round

section Sweep

variable [DecidableEq α] {look : β → List α → List α} {places : List β} {known : List α}

theorem buildsOn_sweep : (sweep look places known).BuildsOn known :=
  List.foldlRecOn (motive := fun r : Round α => r.BuildsOn known) places _ Round.buildsOn_start
    fun _ builds _ _ => builds.note

theorem sweep_induction {p : α → Prop} (start : ∀ x ∈ known, p x)
    (keeps : ∀ place ∈ places, ∀ known, (∀ x ∈ known, p x) → ∀ x ∈ look place known, p x) :
    ∀ x ∈ (sweep look places known).known, p x := by
  refine List.foldlRecOn (motive := fun r : Round α => ∀ x ∈ r.known, p x) places _ start ?_
  intro r holds place listed x member
  rw [Round.known_note] at member
  rcases List.mem_append.1 member with old | fresh
  · exact holds x old
  · exact keeps place listed r.known holds x (mem_unseen.1 fresh).1

/-- Nothing can be found at the places of a round without a change. The looks of such a round all
see the same facts, which is what the induction carries along. -/
theorem look_subset_of_unchanged (unchanged : (sweep look places known).changed = false) :
    ∀ place ∈ places, look place known ⊆ known := by
  have looks : ∀ (places : List β) (r : Round α),
      (places.foldl (fun r place => r.note (look place r.known)) r).changed = false →
        r.changed = false ∧ ∀ place ∈ places, look place r.known ⊆ r.known := by
    intro places
    induction places with
    | nil => exact fun r unchanged => ⟨unchanged, by simp⟩
    | cons place rest ih =>
      intro r unchanged
      obtain ⟨noted, others⟩ := ih (r.note (look place r.known)) unchanged
      obtain ⟨before, nothing⟩ := Round.note_unchanged_iff.1 noted
      rw [Round.note_eq_self nothing] at others
      exact ⟨before, List.forall_mem_cons.2 ⟨nothing, others⟩⟩
  exact (looks places ⟨known, false⟩ unchanged).2

end Sweep

/-! ### Rounds until one changes nothing -/

variable {round : List α → Round α} {known final : List α} {rounds limit : Nat}

theorem saturate_induction {p : α → Prop}
    (keeps : ∀ known, (∀ x ∈ known, p x) → ∀ x ∈ (round known).known, p x)
    (start : ∀ x ∈ known, p x) : ∀ x ∈ saturate round limit known, p x := by
  induction limit generalizing known with
  | zero => exact start
  | succ limit ih =>
    unfold saturate
    dsimp only
    split
    · exact ih (keeps known start)
    · exact keeps known start

/-- The loop that makes rounds as long as they change something, with no limit to their number:
from what is known it comes to its end in so many rounds. -/
inductive Settles (round : List α → Round α) : (rounds : Nat) → (known final : List α) → Prop
  | last {known : List α} (unchanged : (round known).changed = false) :
      Settles round 1 known (round known).known
  | more {rounds : Nat} {known final : List α} (changed : (round known).changed = true)
      (rest : Settles round rounds (round known).known final) :
      Settles round (rounds + 1) known final

namespace Settles

/-- A limit that leaves room for all rounds of a loop has no effect. -/
theorem saturate_eq (h : Settles round rounds known final) (enough : rounds ≤ limit) :
    saturate round limit known = final := by
  induction h generalizing limit with
  | last unchanged =>
    obtain ⟨limit, rfl⟩ := Nat.exists_eq_add_of_le' enough
    simp [saturate, unchanged]
  | @more rounds _ _ changed _ ih =>
    obtain ⟨limit, rfl⟩ := Nat.exists_eq_add_of_le' enough
    rw [← Nat.add_assoc, saturate]
    simp only [changed, if_true]
    exact ih (Nat.le_add_left rounds limit)

end Settles

/-- Rounds that report what they find, all of it from a stock of facts. -/
structure BoundedBy (stock : List α) (round : List α → Round α) : Prop where
  builds : ∀ known, (round known).BuildsOn known
  within : ∀ known, (∀ x ∈ known, x ∈ stock) → ∀ x ∈ (round known).known, x ∈ stock

/-- The loop comes to its end within a number of rounds, and another round would change nothing. -/
structure StopsWithin (round : List α → Round α) (limit : Nat) (known final : List α) : Prop where
  settles : ∃ rounds ≤ limit, Settles round rounds known final
  fixed : round final = ⟨final, false⟩

/-- Whatever a look finds then is known. -/
theorem StopsWithin.look_subset [DecidableEq α] {look : β → List α → List α} {places : List β}
    (h : StopsWithin (sweep look places) limit known final) {place : β} (listed : place ∈ places) :
    look place final ⊆ final :=
  look_subset_of_unchanged (congrArg Round.changed h.fixed) place listed

namespace BoundedBy

variable {stock : List α}

theorem sweep [DecidableEq α] {look : β → List α → List α} {places : List β}
    (finds : ∀ place ∈ places, ∀ known, (∀ x ∈ known, x ∈ stock) →
      ∀ x ∈ look place known, x ∈ stock) : BoundedBy stock (sweep look places) where
  builds _ := buildsOn_sweep
  within _ start := sweep_induction start finds

theorem round_final (h : BoundedBy stock round) (settles : Settles round rounds known final) :
    round final = ⟨final, false⟩ := by
  induction settles with
  | @last known unchanged =>
    have same := (h.builds known).same unchanged
    rw [same]
    exact congrArg₂ Round.mk same unchanged
  | more _ _ ih => exact ih

theorem length_le (h : BoundedBy stock round) (once : known.Nodup)
    (start : ∀ x ∈ known, x ∈ stock) : (round known).known.length ≤ stock.length :=
  (List.subperm_of_subset ((h.builds known).nodup once) fun x => h.within known start x).length_le

/-- Each round but the last takes a fact from the stock that was not known before it, so the
induction is on the number of facts that are left. -/
theorem settles (h : BoundedBy stock round) (once : known.Nodup)
    (start : ∀ x ∈ known, x ∈ stock) : ∃ rounds final, Settles round rounds known final ∧
      rounds + known.length ≤ stock.length + 1 := by
  induction left : stock.length - known.length using Nat.strongRecOn
    generalizing known with
  | _ left ih =>
    have fits := h.length_le once start
    have builds := h.builds known
    cases changed : (round known).changed with
    | false =>
      have kept := builds.length_le
      exact ⟨1, _, .last changed, by omega⟩
    | true =>
      have grows := builds.grows changed
      obtain ⟨rounds, final, rest, few⟩ :=
        ih _ (by omega) (builds.nodup once) (h.within known start) rfl
      exact ⟨rounds + 1, final, .more changed rest, by omega⟩

/-- A limit beyond the stock, which the facts known at first count against, is never what ends the
loop. -/
theorem stopsWithin (h : BoundedBy stock round) (once : known.Nodup)
    (start : ∀ x ∈ known, x ∈ stock) (enough : stock.length < limit + known.length) :
    StopsWithin round limit known (saturate round limit known) := by
  obtain ⟨rounds, final, settles, few⟩ := h.settles once start
  have within : rounds ≤ limit := by omega
  rw [settles.saturate_eq within]
  exact ⟨⟨rounds, within, settles⟩, h.round_final settles⟩

end BoundedBy

/-! ### Exploring -/

variable [DecidableEq α]

theorem explore_induction {successors : α → List α} {p : α → Prop}
    (keeps : ∀ x, p x → ∀ y ∈ successors x, p y) {rounds : Nat} {found latest : List α}
    (start : ∀ x ∈ found, p x) (among : latest ⊆ found) :
    ∀ x ∈ explore successors rounds found latest, p x := by
  induction rounds generalizing found latest with
  | zero => exact start
  | succ rounds ih =>
    unfold explore
    dsimp only
    split
    · exact start
    · apply ih
      · intro x hx
        rcases List.mem_append.1 hx with old | fresh
        · exact start x old
        · obtain ⟨y, found_last, next⟩ := List.mem_flatMap.1 (mem_unseen.1 fresh).1
          exact keeps y (start y (among found_last)) x next
      · exact List.subset_append_right _ _

/-- Nothing leads out of what was found, if each of the facts that are known leads to known ones
unless it was found last. -/
theorem explore_closed {successors : α → List α} {stock : List α}
    (within : ∀ x ∈ stock, ∀ y ∈ successors x, y ∈ stock) {rounds : Nat} {found latest : List α}
    (nodup : found.Nodup) (start : ∀ x ∈ found, x ∈ stock) (among : latest ⊆ found)
    (done : ∀ x ∈ found, ¬ x ∈ latest → ∀ y ∈ successors x, y ∈ found)
    (enough : stock.length ≤ rounds + found.length) :
    ∀ x ∈ explore successors rounds found latest, ∀ y ∈ successors x,
      y ∈ explore successors rounds found latest := by
  induction rounds generalizing found latest with
  | zero =>
    have all : ∀ y ∈ stock, y ∈ found := by
      have fits := List.subperm_of_subset nodup fun x hx => start x hx
      have perm := fits.perm_of_length_le (by omega)
      exact fun y hy => perm.symm.subset hy
    intro x hx y next
    exact all y (within x (start x hx) y next)
  | succ rounds ih =>
    have fresh_iff : ∀ y, y ∈ unseen found (latest.flatMap successors) ↔
        (∃ x ∈ latest, y ∈ successors x) ∧ ¬ y ∈ found := by
      intro y
      rw [mem_unseen, List.mem_flatMap]
    unfold explore
    dsimp only
    split
    · next none_fresh =>
      intro x hx y next
      by_cases last : x ∈ latest
      · by_contra new
        have fresh := (fresh_iff y).2 ⟨⟨x, last, next⟩, new⟩
        rw [List.isEmpty_iff.1 none_fresh] at fresh
        exact List.not_mem_nil fresh
      · exact done x hx last y next
    · next some_fresh =>
      have grows : 0 < (unseen found (latest.flatMap successors)).length := by
        rw [List.length_pos_iff]
        intro none_fresh
        simp [none_fresh] at some_fresh
      apply ih (nodup_append_unseen nodup)
      · intro x hx
        rcases List.mem_append.1 hx with old | fresh
        · exact start x old
        · obtain ⟨⟨z, last, next⟩, -⟩ := (fresh_iff x).1 fresh
          exact within z (start z (among last)) x next
      · exact List.subset_append_right _ _
      · intro x hx notFresh y next
        have old : x ∈ found := (List.mem_append.1 hx).resolve_right notFresh
        by_cases known : y ∈ found
        · exact List.mem_append_left _ known
        · by_cases last : x ∈ latest
          · exact List.mem_append_right _ ((fresh_iff y).2 ⟨⟨x, last, next⟩, known⟩)
          · exact absurd (done x old last y next) known
      · rw [List.length_append]
        omega

/-- Exploring finds what can be reached from the first facts, and nothing else. -/
theorem mem_explore_iff {successors : α → List α} {stock first : List α}
    (within : ∀ x ∈ stock, ∀ y ∈ successors x, y ∈ stock) (nodup : first.Nodup)
    (start : ∀ x ∈ first, x ∈ stock) {rounds : Nat} (enough : stock.length ≤ rounds) {x : α} :
    x ∈ explore successors rounds first first ↔
      ∃ a ∈ first, Relation.ReflTransGen (fun u v => v ∈ successors u) a x := by
  constructor
  · intro found
    refine explore_induction (p := fun x => ∃ a ∈ first,
      Relation.ReflTransGen (fun u v => v ∈ successors u) a x) ?_ ?_ (List.Subset.refl _) x found
    · rintro u ⟨a, inFirst, reached⟩ v next
      exact ⟨a, inFirst, reached.tail next⟩
    · exact fun a inFirst => ⟨a, inFirst, .refl⟩
  · rintro ⟨a, inFirst, reached⟩
    induction reached with
    | refl => exact subset_explore inFirst
    | tail _ next ih =>
      exact explore_closed within nodup start (List.Subset.refl _)
        (fun x hx notLast => absurd hx notLast) (by omega) _ ih _ next

end Saturation

end GuidedDecoding
