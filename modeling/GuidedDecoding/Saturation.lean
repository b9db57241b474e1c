/-!
# Rounds until nothing new is found

A round looks at a number of places, one after another. What a look finds is known from then on, to
the rest of the round as well, and the round has changed something if any look has found something
new. `saturate` makes rounds as long as they change something. When all facts come from a finite
stock, one round more than the stock has members is enough.

`explore` is for facts that follow from one other fact each: a round looks only at what the round
before has found.
-/

namespace GuidedDecoding

section Saturation

variable {α : Type} [DecidableEq α]

/-- The members of a list that were not seen before, each once. -/
def unseen (seen : List α) : List α → List α
  | [] => []
  | x :: rest => if x ∈ seen then unseen seen rest else x :: unseen (x :: seen) rest

/-- What is known in the course of a round, and whether the round has found any of it. -/
structure Round (α : Type) where
  known : List α
  changed : Bool
deriving DecidableEq

/-- The round after one more look. -/
def Round.note (r : Round α) (found : List α) : Round α :=
  let fresh := unseen r.known found
  if fresh.isEmpty then r else ⟨r.known ++ fresh, true⟩

/-- A round that looks at places, one after another. -/
def sweep {β : Type} (look : β → List α → List α) (places : List β) (known : List α) : Round α :=
  places.foldl (fun r place => r.note (look place r.known)) ⟨known, false⟩

/-- What is known after a round that changes nothing, or else after a number of rounds. -/
def saturate (round : List α → Round α) : (rounds : Nat) → (known : List α) → List α
  | 0, known => known
  | rounds + 1, known =>
    let r := round known
    if r.changed then saturate round rounds r.known else r.known

/-- What has been found and all that can be reached within a number of rounds from those of it that
were found last. -/
def explore (successors : α → List α) : (rounds : Nat) → (found latest : List α) → List α
  | 0, found, _ => found
  | rounds + 1, found, latest =>
    let fresh := unseen found (latest.flatMap successors)
    if fresh.isEmpty then found else explore successors rounds (found ++ fresh) fresh

theorem mem_unseen {x : α} {l : List α} : ∀ {seen : List α},
    x ∈ unseen seen l ↔ x ∈ l ∧ ¬ x ∈ seen := by
  induction l with
  | nil => simp [unseen]
  | cons y rest ih =>
    intro seen
    unfold unseen
    split
    · next h =>
      rw [ih]
      refine ⟨fun ⟨mem, new⟩ => ⟨List.mem_cons_of_mem y mem, new⟩, fun ⟨mem, new⟩ => ⟨?_, new⟩⟩
      rcases List.mem_cons.1 mem with rfl | mem
      · exact absurd h new
      · exact mem
    · next h =>
      by_cases eq : x = y
      · subst eq; simp [h]
      · simp [ih, eq]

theorem nodup_append_unseen {l : List α} : ∀ {seen : List α}, seen.Nodup →
    (seen ++ unseen seen l).Nodup := by
  induction l with
  | nil => intro seen h; simpa [unseen] using h
  | cons y rest ih =>
    intro seen h
    unfold unseen
    split
    · exact ih h
    · next new =>
      have step := ih (List.nodup_cons.2 ⟨new, h⟩)
      exact (List.perm_middle.nodup_iff).2 step

theorem subset_explore {successors : α → List α} : ∀ {rounds : Nat} {found latest : List α} {x : α},
    x ∈ found → x ∈ explore successors rounds found latest := by
  intro rounds
  induction rounds with
  | zero => exact fun h => h
  | succ rounds ih =>
    intro found latest x h
    unfold explore
    dsimp only
    split
    · exact h
    · exact ih (List.mem_append_left _ h)

end Saturation

end GuidedDecoding
