import GuidedDecoding.Regex.Matching
import Mathlib.Data.List.Basic

/-!
# Matching finds every stretch

Advancing from a set of places leads to exactly the places where stretches that begin at one of
them may end. For a loop this is because a stretch never ends before it begins: of the repetitions
only those that take up characters lead on, and there are at most as many of them as there are
characters.
-/

namespace GuidedDecoding

namespace Places

theorem mem_merge {xs ys : List Nat} {z : Nat} : z ∈ merge xs ys ↔ z ∈ xs ∨ z ∈ ys := by
  induction xs generalizing ys with
  | nil => simp [merge]
  | cons x xs ih =>
    unfold merge
    induction ys with
    | nil => simp [merge.mergeInto]
    | cons y ys ihy =>
      unfold merge.mergeInto
      split
      · simp [ih, or_assoc]
      · split
        · next same => simp [ih, same, or_assoc, or_left_comm]
        · simp [ihy, or_left_comm]

theorem mem_without {xs ys : List Nat} {z : Nat} : z ∈ without xs ys ↔ z ∈ xs ∧ ¬ z ∈ ys := by
  simp [without]

end Places

namespace Regex

variable {text : List Char} {r : Regex}

/-- Every loop has room for the repetitions that it needs. -/
def Proper : Regex → Prop
  | .seq r s => r.Proper ∧ s.Proper
  | .alt r s => r.Proper ∧ s.Proper
  | .loop least most r => (∀ m, most = some m → least ≤ m) ∧ r.Proper
  | _ => True

/-- Stretches that the expression describes follow one another a number of times. -/
def Repeats (text : List Char) (r : Regex) : (times : Nat) → Nat → Nat → Prop
  | 0, i, j => i = j
  | n + 1, i, k => ∃ j, Matches text r i j ∧ Repeats text r n j k

theorem Repeats.append {m n i j k : Nat} (first : Repeats text r m i j)
    (second : Repeats text r n j k) : Repeats text r (m + n) i k := by
  induction m generalizing i with
  | zero =>
    cases first
    rwa [Nat.zero_add]
  | succ m ih =>
    obtain ⟨next, step, rest⟩ := first
    rw [Nat.succ_add]
    exact ⟨next, step, ih rest⟩

theorem Repeats.split {m n i k : Nat} (h : Repeats text r (m + n) i k) :
    ∃ j, Repeats text r m i j ∧ Repeats text r n j k := by
  induction m generalizing i with
  | zero => exact ⟨i, rfl, by rwa [Nat.zero_add] at h⟩
  | succ m ih =>
    rw [Nat.succ_add] at h
    obtain ⟨next, step, rest⟩ := h
    obtain ⟨j, first, second⟩ := ih rest
    exact ⟨j, ⟨next, step, first⟩, second⟩

theorem repeats_of_loop {e : Regex} {i j : Nat} (h : Matches text e i j) :
    ∀ {least : Nat} {most : Option Nat}, e = .loop least most r →
      ∃ n, least ≤ n ∧ (∀ m, most = some m → n ≤ m) ∧ Repeats text r n i j := by
  induction h with
  | done i =>
    intro least most same
    cases same
    exact ⟨0, Nat.le_refl 0, fun m _ => Nat.zero_le m, rfl⟩
  | @needed least most _ _ _ _ room first _ _ ih =>
    intro least' most' same
    cases same
    obtain ⟨n, enough, fits, rest⟩ := ih rfl
    refine ⟨n + 1, Nat.succ_le_succ enough, ?_, _, first, rest⟩
    rintro m rfl
    have fewer : n ≤ m - 1 := fits (m - 1) rfl
    have positive : m ≠ 0 := fun none => room (none ▸ rfl)
    omega
  | @further most _ _ _ _ room first _ _ ih =>
    intro least' most' same
    cases same
    obtain ⟨n, -, fits, rest⟩ := ih rfl
    refine ⟨n + 1, Nat.zero_le _, ?_, _, first, rest⟩
    rintro m rfl
    have fewer : n ≤ m - 1 := fits (m - 1) rfl
    have positive : m ≠ 0 := fun none => room (none ▸ rfl)
    omega
  | _ => nofun

theorem loop_of_repeats {n least : Nat} {most : Option Nat} {i j : Nat} (enough : least ≤ n)
    (fits : ∀ m, most = some m → n ≤ m) (h : Repeats text r n i j) :
    Matches text (.loop least most r) i j := by
  induction n generalizing least most i with
  | zero =>
    cases h
    rw [Nat.le_zero.1 enough]
    exact .done _
  | succ n ih =>
    obtain ⟨next, first, rest⟩ := h
    have room : most ≠ some 0 := fun none => absurd (fits 0 none) (Nat.not_succ_le_zero n)
    have fits_rest : ∀ m, most.map (· - 1) = some m → n ≤ m := by
      intro m fewer
      obtain ⟨m', same, rfl⟩ := Option.map_eq_some_iff.1 fewer
      exact Nat.le_sub_one_of_lt (fits m' same)
    cases least with
    | zero => exact .further room first (ih (Nat.zero_le n) fits_rest rest)
    | succ least =>
      exact .needed room first (ih (Nat.le_of_succ_le_succ enough) fits_rest rest)

/-- A loop describes as many stretches in a row as it asks for and has room for. -/
theorem matches_loop_iff {least : Nat} {most : Option Nat} {i j : Nat} :
    Matches text (.loop least most r) i j ↔
      ∃ n, least ≤ n ∧ (∀ m, most = some m → n ≤ m) ∧ Repeats text r n i j := by
  constructor
  · exact fun h => repeats_of_loop h rfl
  · rintro ⟨n, enough, fits, h⟩
    exact loop_of_repeats enough fits h

/-- A stretch does not end before it begins. -/
theorem Matches.le {i j : Nat} (h : Matches text r i j) : i ≤ j := by
  induction h <;> omega

/-- A stretch that is not empty ends within the text. -/
theorem Matches.eq_or_le {i j : Nat} (h : Matches text r i j) : i = j ∨ j ≤ text.length := by
  induction h with
  | set here _ => exact .inr (List.getElem?_eq_some_iff.1 here).1
  | seq _ _ ih₁ ih₂ => omega
  | left _ ih => exact ih
  | right _ ih => exact ih
  | needed _ _ _ ih₁ ih₂ => omega
  | further _ _ _ ih₁ ih₂ => omega
  | _ => exact .inl rfl

theorem Repeats.le {n i j : Nat} (h : Repeats text r n i j) : i ≤ j := by
  induction n generalizing i with
  | zero => exact Nat.le_of_eq h
  | succ n ih =>
    obtain ⟨next, step, rest⟩ := h
    exact Nat.le_trans step.le (ih rest)

theorem Repeats.eq_or_le {n i j : Nat} (h : Repeats text r n i j) : i = j ∨ j ≤ text.length := by
  induction n generalizing i with
  | zero => exact .inl h
  | succ n ih =>
    obtain ⟨next, step, rest⟩ := h
    rcases ih rest with rfl | inside
    · exact step.eq_or_le
    · exact .inr inside

/-- Empty stretches can be left out, and each of the others takes a character. -/
theorem Repeats.shorten {n i j : Nat} (h : Repeats text r n i j) :
    ∃ m ≤ n, m ≤ j - i ∧ Repeats text r m i j := by
  induction n generalizing i with
  | zero => exact ⟨0, Nat.le_refl 0, Nat.zero_le _, h⟩
  | succ n ih =>
    obtain ⟨next, step, rest⟩ := h
    obtain ⟨m, fewer, short, shorter⟩ := ih rest
    by_cases stays : i = next
    · exact ⟨m, Nat.le_succ_of_le fewer, stays ▸ short, stays ▸ shorter⟩
    · have forward : i ≤ next := step.le
      have onward : next ≤ j := rest.le
      exact ⟨m + 1, Nat.succ_le_succ fewer, by omega, next, step, shorter⟩

/-- As many repetitions as there are characters are as good as any number of them. -/
theorem Repeats.within {n i j : Nat} (h : Repeats text r n i j) :
    ∃ m ≤ min n (text.length + 1), Repeats text r m i j := by
  obtain ⟨m, fewer, short, shorter⟩ := h.shorten
  refine ⟨m, Nat.le_min.2 ⟨fewer, ?_⟩, shorter⟩
  rcases h.eq_or_le with rfl | inside
  · omega
  · omega

section Rounds

variable {step : List Nat → List Nat}

/-- The step leads from a set of places to where one stretch more may end. -/
def Follows (text : List Char) (r : Regex) (step : List Nat → List Nat) : Prop :=
  ∀ places x, x ∈ step places ↔ ∃ i ∈ places, Matches text r i x

theorem stepTimes_of_fixed {n : Nat} {places : List Nat} (fixed : step places = places) :
    stepTimes step n places = places := by
  cases n with
  | zero => rfl
  | succ n => simp [stepTimes, fixed]

theorem Follows.mem_stepTimes_iff (follows : Follows text r step) {n : Nat} {places : List Nat}
    {x : Nat} : x ∈ stepTimes step n places ↔ ∃ i ∈ places, Repeats text r n i x := by
  induction n generalizing places with
  | zero => simp [stepTimes, Repeats]
  | succ n ih =>
    have onward :
        x ∈ stepTimes step n (step places) ↔ ∃ i ∈ places, Repeats text r (n + 1) i x := by
      rw [ih]
      constructor
      · rintro ⟨j, reached, rest⟩
        obtain ⟨i, start, first⟩ := (follows places j).1 reached
        exact ⟨i, start, j, first, rest⟩
      · rintro ⟨i, start, j, first, rest⟩
        exact ⟨j, (follows places j).2 ⟨i, start, first⟩, rest⟩
    unfold stepTimes
    dsimp only
    split
    · next fixed =>
      rw [← onward, fixed, stepTimes_of_fixed fixed]
    · exact onward

/-- Places that one match does not leave are not left by any number of matches. -/
theorem mem_of_repeats {reached : List Nat}
    (closed : ∀ i ∈ reached, ∀ j, Matches text r i j → j ∈ reached) {m i x : Nat}
    (h : i ∈ reached) (path : Repeats text r m i x) : x ∈ reached := by
  induction m generalizing i with
  | zero => exact path ▸ h
  | succ m ih =>
    obtain ⟨j, first, rest⟩ := path
    exact ih (closed i h j first) rest

/-- What is reached in a number of rounds, if whatever was not reached last leads only to what has
been reached or is led to by what was reached last. -/
theorem Follows.mem_reach_iff (follows : Follows text r step) {n : Nat} {reached latest : List Nat}
    (among : latest ⊆ reached)
    (done : ∀ i ∈ reached, ∀ j, Matches text r i j → j ∈ reached ∨ j ∈ step latest) {x : Nat} :
    x ∈ reach step n reached latest ↔ ∃ i ∈ reached, ∃ m ≤ n, Repeats text r m i x := by
  induction n generalizing reached latest with
  | zero =>
    constructor
    · exact fun h => ⟨x, h, 0, Nat.le_refl 0, rfl⟩
    · rintro ⟨i, h, m, none, same⟩
      rw [Nat.le_zero.1 none] at same
      exact same ▸ h
  | succ n ih =>
    have fresh_iff : ∀ j, j ∈ Places.without (step latest) reached ↔
        j ∈ step latest ∧ ¬ j ∈ reached := fun j => Places.mem_without
    unfold reach
    dsimp only
    split
    · next none_fresh =>
      have closed : ∀ i ∈ reached, ∀ j, Matches text r i j → j ∈ reached := by
        intro i h j first
        rcases done i h j first with old | next
        · exact old
        · by_contra new
          have fresh := (fresh_iff j).2 ⟨next, new⟩
          rw [List.isEmpty_iff.1 none_fresh] at fresh
          exact List.not_mem_nil fresh
      constructor
      · exact fun h => ⟨x, h, 0, Nat.zero_le _, rfl⟩
      · rintro ⟨i, h, m, -, path⟩
        exact mem_of_repeats closed h path
    · rw [ih (fun j fresh => Places.mem_merge.2 (.inr fresh)) ?_]
      · simp only [Places.mem_merge]
        constructor
        · rintro ⟨i, old | fresh, m, few, path⟩
          · exact ⟨i, old, m, Nat.le_succ_of_le few, path⟩
          · obtain ⟨j, last, first⟩ := (follows latest i).1 ((fresh_iff i).1 fresh).1
            exact ⟨j, among last, m + 1, Nat.succ_le_succ few, i, first, path⟩
        · rintro ⟨i, h, m, few, path⟩
          cases m with
          | zero => exact ⟨i, .inl h, 0, Nat.zero_le n, path⟩
          | succ m =>
            obtain ⟨j, first, rest⟩ := path
            refine ⟨j, ?_, m, Nat.le_of_succ_le_succ few, rest⟩
            by_cases old : j ∈ reached
            · exact .inl old
            · exact .inr ((fresh_iff j).2 ⟨(done i h j first).resolve_left old, old⟩)
      · intro i h j first
        rcases Places.mem_merge.1 h with old | fresh
        · by_cases known : j ∈ reached
          · exact .inl (Places.mem_merge.2 (.inl known))
          · have next := (done i old j first).resolve_left known
            exact .inl (Places.mem_merge.2 (.inr ((fresh_iff j).2 ⟨next, known⟩)))
        · exact .inr ((follows _ j).2 ⟨i, fresh, first⟩)

end Rounds

theorem Follows.seq {s : Regex} {first second : List Nat → List Nat} (hr : Follows text r first)
    (hs : Follows text s second) : Follows text (.seq r s) fun places => second (first places) := by
  intro places x
  rw [hs]
  constructor
  · rintro ⟨j, reached, rest⟩
    obtain ⟨i, start, begun⟩ := (hr places j).1 reached
    exact ⟨i, start, .seq begun rest⟩
  · rintro ⟨i, start, both⟩
    cases both with
    | seq begun rest => exact ⟨_, (hr places _).2 ⟨i, start, begun⟩, rest⟩

theorem Follows.alt {s : Regex} {first second : List Nat → List Nat} (hr : Follows text r first)
    (hs : Follows text s second) :
    Follows text (.alt r s) fun places => Places.merge (first places) (second places) := by
  intro places x
  rw [Places.mem_merge, hr, hs]
  constructor
  · rintro (⟨i, start, h⟩ | ⟨i, start, h⟩)
    · exact ⟨i, start, .left h⟩
    · exact ⟨i, start, .right h⟩
  · rintro ⟨i, start, h⟩
    cases h with
    | left h => exact .inl ⟨i, start, h⟩
    | right h => exact .inr ⟨i, start, h⟩

/-- The number of repetitions beyond the needed ones that a loop tries. -/
def moreTimes (text : List Char) (least : Nat) : (most : Option Nat) → Nat
  | none => text.length + 1
  | some most => min (most - least) (text.length + 1)

/-- No more repetitions have to be tried than a loop has room for, or than there are characters. -/
theorem exists_repeats_iff {least : Nat} {most : Option Nat} (room : ∀ m, most = some m → least ≤ m)
    {i j : Nat} :
    (∃ n, least ≤ n ∧ (∀ m, most = some m → n ≤ m) ∧ Repeats text r n i j) ↔
      ∃ k, Repeats text r least i k ∧ ∃ m ≤ moreTimes text least most, Repeats text r m k j := by
  constructor
  · rintro ⟨n, enough, fits, path⟩
    obtain ⟨more, rfl⟩ := Nat.exists_eq_add_of_le enough
    obtain ⟨k, needed, further⟩ := path.split
    obtain ⟨m, few, shorter⟩ := further.within
    refine ⟨k, needed, m, ?_, shorter⟩
    cases most with
    | none => exact Nat.le_trans few (Nat.min_le_right _ _)
    | some most =>
      have bound : least + more ≤ most := fits most rfl
      simp only [moreTimes]
      omega
  · rintro ⟨k, needed, m, few, further⟩
    refine ⟨least + m, Nat.le_add_right _ _, ?_, needed.append further⟩
    rintro most rfl
    have bound : least ≤ most := room most rfl
    simp only [moreTimes] at few
    omega

theorem Follows.loop {least : Nat} {most : Option Nat} {step : List Nat → List Nat}
    (room : ∀ m, most = some m → least ≤ m) (hr : Follows text r step) :
    Follows text (.loop least most r) fun places =>
      reach step (moreTimes text least most) (stepTimes step least places)
        (stepTimes step least places) := by
  intro places x
  have begun : ∀ i ∈ stepTimes step least places, ∀ j, Matches text r i j →
      j ∈ stepTimes step least places ∨ j ∈ step (stepTimes step least places) :=
    fun i start j first => .inr ((hr _ j).2 ⟨i, start, first⟩)
  rw [hr.mem_reach_iff (List.Subset.refl _) begun]
  simp only [hr.mem_stepTimes_iff, matches_loop_iff, exists_repeats_iff room]
  constructor
  · rintro ⟨k, ⟨i, start, needed⟩, further⟩
    exact ⟨i, start, k, needed, further⟩
  · rintro ⟨i, start, k, needed, further⟩
    exact ⟨k, ⟨i, start, needed⟩, further⟩

/-- Advancing through a proper expression leads to the ends of the stretches that it describes. -/
theorem Proper.follows (proper : r.Proper) : Follows text r (r.advance text) := by
  induction r with
  | empty =>
    intro places x
    constructor
    · exact fun h => ⟨x, h, .empty x⟩
    · rintro ⟨i, start, ⟨⟩⟩
      exact start
  | set s =>
    intro places x
    simp only [advance, List.mem_filterMap]
    constructor
    · rintro ⟨i, start, next⟩
      split at next
      · next c here =>
        split at next
        · next mem =>
          cases next
          exact ⟨i, start, .set here mem⟩
        · cases next
      · cases next
    · rintro ⟨i, start, h⟩
      cases h with
      | set here mem => exact ⟨i, start, by simp [here, mem]⟩
  | look l =>
    intro places x
    simp only [advance, List.mem_filter]
    constructor
    · rintro ⟨start, holds⟩
      exact ⟨x, start, .look holds⟩
    · rintro ⟨i, start, h⟩
      cases h with
      | look holds => exact ⟨start, holds⟩
  | seq r s ihr ihs => exact (ihr proper.1).seq (ihs proper.2)
  | alt r s ihr ihs => exact (ihr proper.1).alt (ihs proper.2)
  | loop least most r ih =>
    cases most with
    | none => exact (ih proper.2).loop proper.1
    | some most => exact (ih proper.2).loop proper.1

/-- A proper expression matches a text exactly if it describes some stretch of it. -/
theorem Proper.isMatch_iff (proper : r.Proper) {value : String} :
    r.isMatch value = true ↔
      ∃ i ≤ value.toList.length, ∃ j, Matches value.toList r i j := by
  have ends : ∀ x, x ∈ r.advance value.toList (List.range (value.toList.length + 1)) ↔
      ∃ i ≤ value.toList.length, Matches value.toList r i x := by
    intro x
    rw [proper.follows]
    simp only [List.mem_range, Nat.lt_succ_iff]
  rw [isMatch, Bool.not_eq_true', List.isEmpty_eq_false_iff_exists_mem]
  simp only [ends]
  constructor
  · rintro ⟨x, i, inside, h⟩
    exact ⟨i, inside, x, h⟩
  · rintro ⟨i, inside, x, h⟩
    exact ⟨x, i, inside, h⟩

end Regex

end GuidedDecoding
