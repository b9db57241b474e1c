/-!
# A pool of slots

A fixed number of slots is given out first come, first served. Who asks while no slot is free waits
in a queue, and a slot that is given back goes to the head of the queue at once. So nobody waits
while a slot is free, which is the invariant `Pool.busy`.
-/

namespace GuidedDecoding

/-- Who holds a slot, and who waits for one. -/
structure Pool where
  size : Nat
  holders : List Nat
  waiting : List Nat
  bounded : holders.length ≤ size
  busy : waiting ≠ [] → holders.length = size

namespace Pool

/-- A pool that nobody uses. -/
def ofSize (size : Nat) : Pool := ⟨size, [], [], Nat.zero_le _, nofun⟩

/-- The number of slots that nobody holds. -/
def free (p : Pool) : Nat := p.size - p.holders.length

theorem free_add_holders (p : Pool) : p.free + p.holders.length = p.size :=
  Nat.sub_add_cancel p.bounded

/-- Whether somebody holds a slot. -/
def isHeldBy (p : Pool) (i : Nat) : Bool := p.holders.contains i

/-- Give somebody a slot, or a place at the end of the queue. -/
def ask (p : Pool) (i : Nat) : Pool :=
  if room : p.holders.length < p.size then
    { p with
      holders := p.holders ++ [i]
      bounded := by rw [List.length_append]; exact room
      busy := fun waits => absurd (p.busy waits) (Nat.ne_of_lt room) }
  else
    { p with
      waiting := p.waiting ++ [i]
      busy := fun _ => Nat.le_antisymm p.bounded (Nat.le_of_not_lt room) }

/-- Take somebody out of the queue. -/
def leave (p : Pool) (i : Nat) : Pool :=
  { p with
    waiting := p.waiting.erase i
    busy := fun waits => p.busy fun nobody => waits (by rw [nobody]; rfl) }

/-- Who gets the next slot that is given back. -/
def next? (p : Pool) : Option Nat := p.waiting.head?

theorem size_le_length_erase {p : Pool} (i : Nat) (waits : p.waiting ≠ []) :
    p.size ≤ (p.holders.erase i).length + 1 := by
  have full := p.busy waits
  have := List.length_erase (l := p.holders) (a := i)
  split at this <;> omega

/-- Give the slot that somebody holds to the head of the queue, if there is one. -/
def release (p : Pool) (i : Nat) : Pool :=
  let rest := p.holders.erase i
  have kept : rest.length ≤ p.size := Nat.le_trans (List.erase_sublist).length_le p.bounded
  match queue : p.waiting with
  | [] => { p with holders := rest, bounded := kept, busy := fun waits => absurd queue waits }
  | next :: waiting =>
    have near : p.size ≤ rest.length + 1 := size_le_length_erase i (by rw [queue]; nofun)
    if room : rest.length < p.size then
      { size := p.size
        holders := rest ++ [next]
        waiting
        bounded := by rw [List.length_append]; exact room
        busy := fun _ => by rw [List.length_append]; exact Nat.le_antisymm room near }
    else
      { p with
        holders := rest
        bounded := kept
        busy := fun _ => Nat.le_antisymm kept (Nat.le_of_not_lt room) }

@[simp] theorem size_ask (p : Pool) (i : Nat) : (p.ask i).size = p.size := by
  unfold ask
  split <;> rfl

@[simp] theorem size_leave (p : Pool) (i : Nat) : (p.leave i).size = p.size := rfl

@[simp] theorem size_release (p : Pool) (i : Nat) : (p.release i).size = p.size := by
  unfold release
  dsimp only
  split
  · rfl
  · split <;> rfl

theorem release_of_waiting_nil {p : Pool} {i : Nat} (h : p.waiting = []) :
    (p.release i).holders = p.holders.erase i ∧ (p.release i).waiting = [] := by
  unfold release
  dsimp only
  split
  · exact ⟨rfl, h⟩
  · next queue => rw [h] at queue; cases queue

theorem release_of_waiting_cons {p : Pool} {i next : Nat} {waiting : List Nat}
    (held : i ∈ p.holders) (h : p.waiting = next :: waiting) :
    (p.release i).holders = p.holders.erase i ++ [next] ∧ (p.release i).waiting = waiting := by
  have room : (p.holders.erase i).length < p.size := by
    have := List.length_pos_of_mem held
    have := p.bounded
    rw [List.length_erase_of_mem held]
    omega
  unfold release
  dsimp only
  split
  · next queue => rw [h] at queue; cases queue
  · next queue =>
    rw [h] at queue
    cases queue
    rw [dif_pos room]
    exact ⟨rfl, rfl⟩

end Pool

end GuidedDecoding
