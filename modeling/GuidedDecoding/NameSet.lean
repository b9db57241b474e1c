/-!
# Finite sets of names

A `NameSet` is the list of its members in increasing order, each once, so two sets with the
same members are equal. Names are compared by code point, which is also the order of their
UTF-8 bytes.

`NameSet.mem_insert` and `NameSet.mem_union` say what the operations do to membership.
-/

namespace GuidedDecoding

/-- A set of names, kept as a strictly increasing list. -/
structure NameSet where
  toList : List String
  sorted : toList.Pairwise (· < ·) := by simp
deriving DecidableEq

namespace NameSet

instance : Membership String NameSet := ⟨fun s x => x ∈ s.toList⟩

instance (x : String) (s : NameSet) : Decidable (x ∈ s) :=
  inferInstanceAs (Decidable (x ∈ s.toList))

theorem mem_def {x : String} {s : NameSet} : x ∈ s ↔ x ∈ s.toList := Iff.rfl

/-- The set without members. -/
def empty : NameSet := ⟨[], .nil⟩

instance : EmptyCollection NameSet := ⟨empty⟩

instance : Inhabited NameSet := ⟨empty⟩

/-- Put a name in its place in an increasing list, unless it is there already. -/
def place (x : String) : List String → List String
  | [] => [x]
  | y :: rest =>
    if x < y then x :: y :: rest
    else if x = y then y :: rest
    else y :: place x rest

@[simp] theorem mem_place {x z : String} {l : List String} :
    z ∈ place x l ↔ z = x ∨ z ∈ l := by
  induction l with
  | nil => simp [place]
  | cons y rest ih =>
    unfold place
    split
    · simp
    · split
      · next h => subst h; simp
      · simp [ih, or_left_comm]

theorem sorted_place {x : String} {l : List String} (h : l.Pairwise (· < ·)) :
    (place x l).Pairwise (· < ·) := by
  induction l with
  | nil => simp [place]
  | cons y rest ih =>
    obtain ⟨above, tail⟩ := List.pairwise_cons.1 h
    unfold place
    split
    · next lt =>
      refine List.pairwise_cons.2 ⟨fun z hz => ?_, h⟩
      rcases List.mem_cons.1 hz with rfl | hz
      · exact lt
      · exact String.lt_trans lt (above z hz)
    · next not_lt =>
      split
      · exact h
      · next ne =>
        refine List.pairwise_cons.2 ⟨fun z hz => ?_, ih tail⟩
        rcases mem_place.1 hz with rfl | hz
        · exact Std.lt_of_le_of_ne (String.not_lt.1 not_lt) (Ne.symm ne)
        · exact above z hz

/-- The set with one more member. -/
def insert (x : String) (s : NameSet) : NameSet := ⟨place x s.toList, sorted_place s.sorted⟩

@[simp] theorem mem_insert {x z : String} {s : NameSet} : z ∈ s.insert x ↔ z = x ∨ z ∈ s :=
  mem_place

/-- The members of a list, in whatever order and however often they stand there. -/
def ofList (l : List String) : NameSet := l.foldl (fun s x => s.insert x) ∅

/-- The members of either set. -/
def union (s t : NameSet) : NameSet := t.toList.foldl (fun s x => s.insert x) s

theorem mem_foldl_insert {z : String} (l : List String) (s : NameSet) :
    z ∈ l.foldl (fun s x => s.insert x) s ↔ z ∈ s ∨ z ∈ l := by
  induction l generalizing s with
  | nil => simp
  | cons x rest ih => simp [ih, or_assoc, or_left_comm]

@[simp] theorem not_mem_empty {z : String} : ¬ z ∈ (∅ : NameSet) := List.not_mem_nil

@[simp] theorem mem_ofList {z : String} {l : List String} : z ∈ ofList l ↔ z ∈ l := by
  simp [ofList, mem_foldl_insert]

@[simp] theorem mem_union {z : String} {s t : NameSet} : z ∈ s.union t ↔ z ∈ s ∨ z ∈ t :=
  mem_foldl_insert t.toList s

/-- The set of one name. -/
def singleton (x : String) : NameSet := ofList [x]

/-- Whether there are no members. -/
def isEmpty (s : NameSet) : Bool := s.toList.isEmpty

end NameSet

end GuidedDecoding
