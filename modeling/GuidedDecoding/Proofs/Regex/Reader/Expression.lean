import GuidedDecoding.Proofs.Regex.Reader.Class
import GuidedDecoding.Regex.Reader.Expression

/-!
# Reading wrapped expressions

An expression that can be read by itself is read in the same way inside a group: every step of the
reader is the same with the group around what is still open. When the expression ends, the closing
parenthesis closes that group, unless a comment has taken it.
-/

namespace GuidedDecoding

namespace RegexReader

/-- The group around an expression, behind the anchor at the start of the text. -/
def wrapping : Frame := .group [.atom (.anchor .startLine)] [] false

/-- The state inside the wrapping, with other text left. -/
def State.inside (s : State) (rest : List Char) : State :=
  { s with frames := s.frames ++ [wrapping], rest }

/-- A wrapped expression. -/
def wrapped (w : Written) : Written :=
  .row [.atom (.anchor .startLine), .group [] w, .atom (.anchor .endLine)]

section Steps

variable {s t : State} {rest rest' : List Char}

/-- What the innermost group holds does not depend on a group around everything. -/
theorem closeChoice_inside {body : Written} {frames : List Frame}
    (h : closeChoice s = (body, frames)) :
    closeChoice (s.inside rest') =
      (body, frames ++ [wrapping]) := by
  obtain ⟨row, opened, names, isSpaced, left⟩ := s
  cases opened with
  | nil =>
    cases h
    rfl
  | cons frame others =>
    cases frame with
    | group => cases h; rfl
    | choice => cases h; rfl

theorem open?_inside (h : open? s rest = some t) :
    ∃ left, open? (s.inside rest') (rest ++ closing) =
        some (t.inside left) ∧ Extends t.rest left := by
  obtain ⟨⟨opening, left⟩, opened, tail⟩ := Option.bind_eq_some_iff.1 h
  obtain ⟨left', opened', e⟩ := opening?_carries (.append rest) _ _ opened
  unfold open?
  rw [State.inside, opened']
  cases opening with
  | flags change' =>
    cases tail
    exact ⟨left', rfl, e⟩
  | group name change' =>
    dsimp only at tail
    split at tail
    · cases tail
    · next new =>
      cases tail
      exact ⟨left', if_neg new, e⟩

theorem close?_inside (h : close? s rest = some t) :
    ∃ left, close? (s.inside rest') (rest ++ closing) =
        some (t.inside left) ∧ Extends t.rest left := by
  unfold close? at h
  split at h
  · next closed =>
    cases h
    unfold close?
    rw [closeChoice_inside closed]
    exact ⟨_, rfl, .append rest⟩
  · cases h

theorem separate_inside (s : State) (rest rest' : List Char) :
    ∃ left, separate (s.inside rest') (rest ++ closing) =
        (separate s rest).inside left ∧
      Extends (separate s rest).rest left := by
  obtain ⟨row, opened, names, isSpaced, left⟩ := s
  cases opened with
  | nil => exact ⟨_, rfl, .append rest⟩
  | cons frame others => cases frame <;> exact ⟨_, rfl, .append rest⟩

theorem afterLazy_extends (h : Extends rest rest') :
    Extends (afterLazy rest) (afterLazy rest') := by
  cases rest with
  | nil =>
    rcases h with rfl | ⟨-, rfl⟩
    · exact .append []
    · exact .inr ⟨rfl, rfl⟩
  | cons c left =>
    obtain rfl := h.of_cons
    by_cases question : c = '?'
    · subst question
      exact .append left
    · unfold afterLazy
      split
      · next same => exact absurd (List.cons.inj same).1 question
      split
      · next same => exact absurd (List.cons.inj same).1 question
      exact .append (c :: left)

theorem repeated?_inside {least : Nat} {most : Option Nat} {left left' : List Char}
    (e : Extends left left') (h : repeated? s least most left = some t) :
    ∃ left'', repeated? (s.inside rest') least most left' =
        some (t.inside left'') ∧ Extends t.rest left'' := by
  obtain ⟨row, opened, names, isSpaced, _⟩ := s
  cases row with
  | nil => cases h
  | cons item others =>
    unfold repeated? at h
    dsimp only at h
    split at h
    · next repeatable =>
      cases h
      exact ⟨_, if_pos repeatable, afterLazy_extends e⟩
    · cases h

/-- Every step is the same with a group around everything and a closing behind. -/
theorem step?_inside {c : Char} (h : step? s c rest = some t) :
    ∃ left, step? (s.inside rest') c (rest ++ closing) =
        some (t.inside left) ∧ Extends t.rest left := by
  have e : Extends rest (rest ++ closing) := .append rest
  unfold step? at h ⊢
  split at h
  · exact open?_inside h
  · exact close?_inside h
  · cases h
    obtain ⟨left, separated, e⟩ := separate_inside s rest rest'
    exact ⟨left, congrArg some separated, e⟩
  · obtain ⟨⟨negated, body, left⟩, read, same⟩ := Option.map_eq_some_iff.1 h
    cases same
    exact ⟨_, Option.map_eq_some_iff.2 ⟨_, class?_extends e read, rfl⟩, .append left⟩
  · exact repeated?_inside e h
  · exact repeated?_inside e h
  · exact repeated?_inside e h
  · obtain ⟨⟨least, most, left⟩, read, tail⟩ := Option.bind_eq_some_iff.1 h
    obtain ⟨left', repeated, further⟩ := repeated?_inside (Extends.append left).skip tail
    exact ⟨left', Option.bind_eq_some_iff.2 ⟨_, counts?_extends e read, repeated⟩, further⟩
  · obtain ⟨⟨atom, left⟩, read, same⟩ := Option.map_eq_some_iff.1 h
    cases same
    obtain ⟨left', read', e⟩ := escape?_carries e _ _ read
    exact ⟨left', Option.map_eq_some_iff.2 ⟨_, read', rfl⟩, e⟩
  · cases h
    exact ⟨_, rfl, e⟩
  · cases h
    exact ⟨_, rfl, e⟩
  · cases h
    exact ⟨_, rfl, e⟩
  · cases h
    exact ⟨_, rfl, e⟩

end Steps

/-- When an expression ends, the closing is read, unless a comment has taken it. -/
theorem run?_at_end {s : State} {w : Written} (h : finish? s = some w) {rest : List Char}
    (left : Extends [] (skip s.spaced rest)) {steps : Nat} (enough : 3 ≤ steps) :
    run? steps (s.inside rest) = none ∨
      run? steps (s.inside rest) = some (wrapped w) := by
  obtain ⟨steps, rfl⟩ := Nat.exists_eq_add_of_le' enough
  have closed : closeChoice s = (w, []) := by
    unfold finish? at h
    split at h
    · next closed =>
      cases h
      exact closed
    · cases h
  have inside : closeChoice (s.inside rest) = (w, [wrapping]) := closeChoice_inside closed
  rcases left with ends | ⟨-, nothing⟩
  · right
    have closes : step? (s.inside rest) ')' ['$'] =
        some ⟨[.group [] w, .atom (.anchor .startLine)], [], s.names, false, ['$']⟩ := by
      simp only [step?, close?, inside, wrapping]
      rfl
    unfold run?
    rw [show skip (s.inside rest).spaced (s.inside rest).rest = [')', '$'] from ends]
    simp only [closes]
    rfl
  · left
    unfold run?
    rw [show skip (s.inside rest).spaced (s.inside rest).rest = [] from nothing]
    simp only [finish?, inside]

theorem run?_inside {steps steps' : Nat} {s : State} {w : Written} (h : run? steps s = some w)
    (enough : steps + 2 ≤ steps') {rest : List Char} (left : Extends s.rest rest) :
    run? steps' (s.inside rest) = none ∨
      run? steps' (s.inside rest) = some (wrapped w) := by
  induction steps generalizing steps' s rest with
  | zero => cases h
  | succ steps ih =>
    unfold run? at h
    split at h
    · next ends =>
      have left : Extends (skip s.spaced s.rest) (skip s.spaced rest) := left.skip
      rw [ends] at left
      exact run?_at_end h left (by omega)
    · next c others head =>
      have left : Extends (skip s.spaced s.rest) (skip s.spaced rest) := left.skip
      rw [head] at left
      obtain ⟨t, step, tail⟩ := Option.bind_eq_some_iff.1 h
      obtain ⟨steps', rfl⟩ := Nat.exists_eq_add_of_le' (Nat.le_trans (Nat.le_add_left 1 _) enough)
      obtain ⟨rest', step', left'⟩ : ∃ rest', step? (s.inside rest) c (others ++ closing) =
          some (t.inside rest') ∧ Extends t.rest rest' := step?_inside step
      have unfolded : run? (steps' + 1) (s.inside rest) = run? steps' (t.inside rest') := by
        rw [run?]
        rw [show skip (s.inside rest).spaced (s.inside rest).rest = _ from left.of_cons]
        simp only [step', Option.bind_some]
      rw [unfolded]
      exact ih tail (by omega) left'

/-- An expression that can be read by itself is read as a group between anchors when it is
wrapped, if it can be read then. -/
theorem run?_wrapped {cs : List Char} {steps steps' : Nat} {w : Written}
    (h : run? steps ⟨[], [], [], false, cs⟩ = some w) (enough : steps + 4 ≤ steps') :
    run? steps' ⟨[], [], [], false, '^' :: '(' :: '?' :: ':' :: (cs ++ closing)⟩ = none ∨
      run? steps' ⟨[], [], [], false, '^' :: '(' :: '?' :: ':' :: (cs ++ closing)⟩ =
        some (wrapped w) := by
  obtain ⟨steps', rfl⟩ := Nat.exists_eq_add_of_le' (Nat.le_trans (Nat.le_add_left 4 steps) enough)
  exact run?_inside h (by omega) (Extends.append cs)

end RegexReader

end GuidedDecoding
