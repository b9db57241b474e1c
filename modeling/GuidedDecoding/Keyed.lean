/-!
# Entries sorted by name

Finite maps from names are lists of entries in strictly increasing order of their names. The
operations here work on the bare list, because types that hold maps of themselves cannot carry
the proof that the names increase; `Keyed.Sorted` states it, and `Keyed.sorted_insert` says
that `insert` keeps it.
-/

namespace GuidedDecoding

namespace Keyed

variable {α : Type}

/-- The names of the entries strictly increase. -/
def Sorted (entries : List (String × α)) : Prop := (entries.map Prod.fst).Pairwise (· < ·)

theorem sorted_nil : Sorted ([] : List (String × α)) := .nil

/-- The value filed under a name. -/
def get? (name : String) : List (String × α) → Option α
  | [] => none
  | (k, v) :: rest => if k = name then some v else get? name rest

/-- Whether a name has an entry. -/
def has (name : String) (entries : List (String × α)) : Bool := (get? name entries).isSome

/-- The names of the entries, in order. -/
def names (entries : List (String × α)) : List String := entries.map Prod.fst

/-- File a value under a name, in place of what was there. -/
def insert (name : String) (value : α) : List (String × α) → List (String × α)
  | [] => [(name, value)]
  | (k, v) :: rest =>
    if name < k then (name, value) :: (k, v) :: rest
    else if name = k then (name, value) :: rest
    else (k, v) :: insert name value rest

/-- File every entry of a list; of two with one name the later stays. -/
def ofList (entries : List (String × α)) : List (String × α) :=
  entries.foldl (fun filed e => insert e.1 e.2 filed) []

theorem get?_insert (name other : String) (value : α) (entries : List (String × α)) :
    get? other (insert name value entries) =
      if name = other then some value else get? other entries := by
  induction entries with
  | nil => simp [insert, get?]
  | cons e rest ih =>
    obtain ⟨k, v⟩ := e
    unfold insert
    split
    · simp [get?]
    · split
      · next h =>
        subst h
        by_cases h : name = other <;> simp [get?, h]
      · next ne =>
        simp only [get?, ih]
        by_cases h : k = other
        · subst h; simp [ne]
        · simp [h]

theorem mem_names_insert {name z : String} {value : α} {entries : List (String × α)} :
    z ∈ names (insert name value entries) ↔ z = name ∨ z ∈ names entries := by
  induction entries with
  | nil => simp [insert, names]
  | cons e rest ih =>
    obtain ⟨k, v⟩ := e
    unfold insert
    split
    · simp [names]
    · split
      · next h => subst h; simp [names]
      · simp only [names, List.map_cons, List.mem_cons] at ih ⊢
        simp [ih, or_left_comm]

theorem sorted_insert {name : String} {value : α} {entries : List (String × α)}
    (h : Sorted entries) : Sorted (insert name value entries) := by
  induction entries with
  | nil => simp [insert, Sorted]
  | cons e rest ih =>
    obtain ⟨k, v⟩ := e
    obtain ⟨above, tail⟩ := List.pairwise_cons.1 h
    unfold insert
    split
    · next lt =>
      refine List.pairwise_cons.2 ⟨fun z hz => ?_, h⟩
      rcases List.mem_cons.1 hz with rfl | hz
      · exact lt
      · exact String.lt_trans lt (above z hz)
    · next not_lt =>
      split
      · next eq => subst eq; exact h
      · next ne =>
        refine List.pairwise_cons.2 ⟨fun z hz => ?_, ih tail⟩
        rcases mem_names_insert.1 hz with rfl | hz
        · exact Std.lt_of_le_of_ne (String.not_lt.1 not_lt) (Ne.symm ne)
        · exact above z hz

theorem sorted_ofList (entries : List (String × α)) : Sorted (ofList entries) := by
  have keeps : ∀ (l acc : List (String × α)), Sorted acc →
      Sorted (l.foldl (fun filed e => insert e.1 e.2 filed) acc) := by
    intro l
    induction l with
    | nil => exact fun _ h => h
    | cons e rest ih => exact fun acc h => ih _ (sorted_insert h)
  exact keeps entries [] .nil

end Keyed

end GuidedDecoding
