import GuidedDecoding.Proofs.Regex.Reader.Lexical
import GuidedDecoding.Regex.Reader.Expression

/-!
# Counts of repetitions

No repetition that is read asks for more than it has room for. Each step of the reader keeps this of
everything that has been read so far, in the row and in the frames around it.
-/

namespace GuidedDecoding

/-- No repetition in the expression asks for more than it has room for. -/
inductive Written.Counted : Written → Prop where
  | empty : Counted .empty
  | flags (change : FlagChange) : Counted (.flags change)
  | atom (a : Atom) : Counted (.atom a)
  | bracketed (negated : Bool) (body : ClassItem) : Counted (.bracketed negated body)
  | repetition {least : Nat} {most : Option Nat} {body : Written}
      (room : ∀ m, most = some m → least ≤ m) (inner : Counted body) :
    Counted (.repetition least most body)
  | group (change : FlagChange) {body : Written} (inner : Counted body) :
    Counted (.group change body)
  | choice {branches : List Written} (each : ∀ w ∈ branches, Counted w) : Counted (.choice branches)
  | row {items : List Written} (each : ∀ w ∈ items, Counted w) : Counted (.row items)

theorem Written.Counted.ofRow {items : List Written} (each : ∀ w ∈ items, w.Counted) :
    (Written.ofRow items).Counted := by
  unfold Written.ofRow
  split
  · exact .empty
  · exact each _ List.mem_cons_self
  · exact .row each

namespace RegexReader

/-- Whatever a frame holds is counted. -/
def Frame.Counted : Frame → Prop
  | .group before _ _ => ∀ w ∈ before, w.Counted
  | .choice branches => ∀ w ∈ branches, w.Counted

/-- Whatever has been read is counted. -/
structure State.Counted (s : State) : Prop where
  row : ∀ w ∈ s.row, w.Counted
  frames : ∀ f ∈ s.frames, f.Counted

variable {s t : State} {rest : List Char}

theorem State.Counted.rowSoFar (h : s.Counted) : s.rowSoFar.Counted :=
  .ofRow fun w member => h.row w (List.mem_reverse.1 member)

theorem State.Counted.row_cons (h : s.Counted) {item : Written} (counted : item.Counted) :
    ∀ w ∈ item :: s.row, w.Counted := by
  intro w member
  rcases List.mem_cons.1 member with rfl | earlier
  · exact counted
  · exact h.row w earlier

theorem State.Counted.push (h : s.Counted) {item : Written} (counted : item.Counted) :
    (s.push item rest).Counted where
  row := h.row_cons counted
  frames := h.frames

theorem State.Counted.closeChoice (h : s.Counted) {body : Written} {frames : List Frame}
    (closed : closeChoice s = (body, frames)) :
    body.Counted ∧ ∀ f ∈ frames, f.Counted := by
  unfold RegexReader.closeChoice at closed
  split at closed
  · next opened =>
    cases closed
    have inner : ∀ f ∈ Frame.choice _ :: frames, f.Counted := opened ▸ h.frames
    refine ⟨.choice fun w member => ?_, fun f member => inner f (List.mem_cons_of_mem _ member)⟩
    rcases List.mem_cons.1 (List.mem_reverse.1 member) with rfl | earlier
    · exact h.rowSoFar
    · exact inner _ List.mem_cons_self w earlier
  · cases closed
    exact ⟨h.rowSoFar, h.frames⟩

theorem State.Counted.repeated? (h : s.Counted) {least : Nat} {most : Option Nat}
    (room : ∀ m, most = some m → least ≤ m) (read : repeated? s least most rest = some t) :
    t.Counted := by
  unfold RegexReader.repeated? at read
  split at read
  · next item before opened =>
    split at read
    · cases read
      have inner : ∀ w ∈ item :: before, w.Counted := opened ▸ h.row
      refine ⟨fun w member => ?_, h.frames⟩
      rcases List.mem_cons.1 member with rfl | earlier
      · exact .repetition room (inner item List.mem_cons_self)
      · exact inner w (List.mem_cons_of_mem _ earlier)
    · cases read
  · cases read

theorem State.Counted.open? (h : s.Counted) (read : open? s rest = some t) : t.Counted := by
  obtain ⟨⟨opening, left⟩, -, tail⟩ := Option.bind_eq_some_iff.1 read
  cases opening with
  | flags change =>
    cases tail
    exact ⟨h.row_cons (.flags change), h.frames⟩
  | group name change =>
    dsimp only at tail
    split at tail
    · cases tail
    · cases tail
      refine ⟨nofun, fun f member => ?_⟩
      rcases List.mem_cons.1 member with rfl | outer
      · exact h.row
      · exact h.frames f outer

theorem State.Counted.close? (h : s.Counted) (read : close? s rest = some t) : t.Counted := by
  unfold RegexReader.close? at read
  split at read
  · next body before change spaced frames closed =>
    cases read
    obtain ⟨inner, outer⟩ := h.closeChoice closed
    refine ⟨fun w member => ?_, fun f member => outer f (List.mem_cons_of_mem _ member)⟩
    rcases List.mem_cons.1 member with rfl | earlier
    · exact .group change inner
    · exact outer _ List.mem_cons_self w earlier
  · cases read

theorem State.Counted.separate (h : s.Counted) : (separate s rest).Counted := by
  unfold RegexReader.separate
  split
  · next branches others opened =>
    have inner : ∀ f ∈ Frame.choice branches :: others, f.Counted := opened ▸ h.frames
    refine ⟨nofun, fun f member => ?_⟩
    rcases List.mem_cons.1 member with rfl | outer
    · intro w member
      rcases List.mem_cons.1 member with rfl | earlier
      · exact h.rowSoFar
      · exact inner _ List.mem_cons_self w earlier
    · exact inner f (List.mem_cons_of_mem _ outer)
  · refine ⟨nofun, fun f member => ?_⟩
    rcases List.mem_cons.1 member with rfl | outer
    · intro w member
      exact List.mem_singleton.1 member ▸ h.rowSoFar
    · exact h.frames f outer

/-- Each step keeps what has been read counted. -/
theorem State.Counted.step? (h : s.Counted) {c : Char} (read : step? s c rest = some t) :
    t.Counted := by
  unfold RegexReader.step? at read
  split at read
  · exact h.open? read
  · exact h.close? read
  · cases read
    exact h.separate
  · obtain ⟨⟨negated, body, left⟩, -, same⟩ := Option.map_eq_some_iff.1 read
    cases same
    exact h.push (.bracketed negated body)
  · exact h.repeated? (fun m one => Nat.zero_le m) read
  · exact h.repeated? (fun m unbounded => by cases unbounded) read
  · exact h.repeated? (fun m unbounded => by cases unbounded) read
  · obtain ⟨⟨least, most, left⟩, counts, tail⟩ := Option.bind_eq_some_iff.1 read
    exact h.repeated? (fun m bounded => least_le_of_counts? counts bounded) tail
  · obtain ⟨⟨atom, left⟩, -, same⟩ := Option.map_eq_some_iff.1 read
    cases same
    exact h.push (.atom atom)
  all_goals
    cases read
    exact h.push (.atom _)

theorem State.Counted.run? {steps : Nat} (h : s.Counted) {w : Written}
    (read : run? steps s = some w) : w.Counted := by
  induction steps generalizing s with
  | zero => cases read
  | succ steps ih =>
    unfold RegexReader.run? at read
    split at read
    · unfold finish? at read
      split at read
      · next closed =>
        cases read
        exact (h.closeChoice closed).1
      · cases read
    · obtain ⟨t, step, tail⟩ := Option.bind_eq_some_iff.1 read
      exact ih (h.step? step) tail

end RegexReader

/-- Expressions that are read ask for no more than they have room for. -/
theorem Written.counted_of_parse {cs : List Char} {w : Written} (h : Written.parse cs = some w) :
    w.Counted := by
  obtain ⟨read, -⟩ := Option.filter_eq_some_iff.1 h
  exact RegexReader.State.Counted.run? ⟨by simp, by simp⟩ read

end GuidedDecoding
