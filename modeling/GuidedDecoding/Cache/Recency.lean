/-!
# Entries by recency

A store of bounded size keeps its entries with the most recently used one in front. Each key has at
most one entry, and an entry that is put into a full store pushes out the one used least recently.
-/

namespace GuidedDecoding

/-- At most `capacity` entries with distinct keys, the most recently used one first. -/
structure RecencyStore (κ α : Type) where
  capacity : Nat
  entries : List (κ × α)
  distinct : (entries.map Prod.fst).Nodup
  bounded : entries.length ≤ capacity

namespace RecencyStore

variable {κ α : Type} [DecidableEq κ]

/-- A store without entries. -/
def empty (capacity : Nat) : RecencyStore κ α := ⟨capacity, [], .nil, Nat.zero_le _⟩

/-- The number of entries. -/
def size (s : RecencyStore κ α) : Nat := s.entries.length

/-- The entry of a key, whose recency stays as it is. -/
def get? (s : RecencyStore κ α) (key : κ) : Option α :=
  (s.entries.find? fun e => e.1 = key).map Prod.snd

/-- Whether a key has an entry. -/
def contains (s : RecencyStore κ α) (key : κ) : Bool := (s.get? key).isSome

/-- The entries of other keys. -/
def others (key : κ) (entries : List (κ × α)) : List (κ × α) := entries.filter fun e => e.1 ≠ key

theorem others_sublist (key : κ) (entries : List (κ × α)) : (others key entries).Sublist entries :=
  List.filter_sublist

theorem not_mem_keys_others (key : κ) (entries : List (κ × α)) :
    ¬ key ∈ (others key entries).map Prod.fst := by
  simp [others]

/-- The store without the entry of a key. -/
def erase (s : RecencyStore κ α) (key : κ) : RecencyStore κ α where
  capacity := s.capacity
  entries := others key s.entries
  distinct := s.distinct.sublist ((others_sublist key s.entries).map Prod.fst)
  bounded := Nat.le_trans (others_sublist key s.entries).length_le s.bounded

theorem nodup_keys_front {key : κ} {value : α} {entries : List (κ × α)}
    (h : (entries.map Prod.fst).Nodup) :
    (((key, value) :: others key entries).map Prod.fst).Nodup :=
  List.nodup_cons.2
    ⟨not_mem_keys_others key entries, h.sublist ((others_sublist key entries).map Prod.fst)⟩

/-- The store with an entry in front, in place of the one that its key has. -/
def put (s : RecencyStore κ α) (key : κ) (value : α) : RecencyStore κ α where
  capacity := s.capacity
  entries := ((key, value) :: others key s.entries).take s.capacity
  distinct := (nodup_keys_front s.distinct).sublist ((List.take_sublist _ _).map Prod.fst)
  bounded := List.length_take_le _ _

theorem get?_erase (s : RecencyStore κ α) (key other : κ) :
    (s.erase key).get? other = if key = other then none else s.get? other := by
  unfold get? erase others
  rw [List.find?_filter]
  split
  · next same =>
    subst same
    simp
  · next differ =>
    congr 2
    funext e
    by_cases found : e.1 = other <;> simp [found, Ne.symm differ]

theorem get?_put_self (s : RecencyStore κ α) (key : κ) (value : α) (room : 0 < s.capacity) :
    (s.put key value).get? key = some value := by
  unfold get? put
  obtain ⟨n, size⟩ := Nat.exists_eq_succ_of_ne_zero (Nat.ne_of_gt room)
  simp [size]

theorem get?_of_get?_put {s : RecencyStore κ α} {key other : κ} {value kept : α}
    (differ : key ≠ other) (h : (s.put key value).get? other = some kept) :
    s.get? other = some kept := by
  have erased := s.get?_erase key other
  rw [if_neg differ] at erased
  rw [← erased]
  obtain ⟨e, found, rfl⟩ := Option.map_eq_some_iff.1 h
  have found := (List.take_prefix _ _).find?_eq_some found
  rw [List.find?_cons_of_neg (by simpa using differ)] at found
  exact Option.map_eq_some_iff.2 ⟨e, found, rfl⟩

/-- How many entries of other keys an entry pushes out. -/
def pushedOut (s : RecencyStore κ α) (key : κ) : Nat := (s.erase key).size - (s.capacity - 1)

/-- The store with the entry of a key used just now, if there is one. -/
def touch (s : RecencyStore κ α) (key : κ) : RecencyStore κ α :=
  match s.get? key with
  | some value => s.put key value
  | none => s

/-- The store without any entry. -/
def clear (s : RecencyStore κ α) : RecencyStore κ α := empty s.capacity

end RecencyStore

end GuidedDecoding
