import GuidedDecoding.FieldPath

/-!
# The last name of a path

A name without dots is a path of one piece, so it is the last name of every path that it is put
behind. The last name of a path never has dots itself.
-/

namespace GuidedDecoding

namespace FieldPath

/-- A name that is one piece of a path. -/
def Plain (name : String) : Prop := ¬ '.' ∈ name.toList

instance (name : String) : Decidable (Plain name) := inferInstanceAs (Decidable (¬ _))

theorem pieces_of_not_mem {cs : List Char} (h : ¬ '.' ∈ cs) : pieces cs = [cs] := by
  induction cs with
  | nil => rfl
  | cons c rest ih =>
    have noDot : ¬ c = '.' := fun same => h (same ▸ List.mem_cons_self)
    simp [pieces, ih fun inRest => h (List.mem_cons_of_mem _ inRest), noDot]

theorem pieces_append (cs ds : List Char) : pieces (cs ++ '.' :: ds) = pieces cs ++ pieces ds := by
  induction cs with
  | nil =>
    cases h : pieces ds with
    | nil => exact absurd h (pieces_ne_nil ds)
    | cons first more => simp [pieces, h]
  | cons c rest ih =>
    cases h : pieces rest with
    | nil => exact absurd h (pieces_ne_nil rest)
    | cons first more =>
      simp only [List.cons_append, pieces, ih, h]
      split <;> rfl

theorem last_eq (path : String) :
    last path = String.ofList ((pieces path.toList).getLast (pieces_ne_nil _)) := by
  simp [last, segments, List.getLastD_eq_getLast?, List.getLast?_eq_some_getLast (pieces_ne_nil _)]

theorem plain_last (path : String) : Plain (last path) := by
  rw [Plain, last_eq, String.toList_ofList]
  exact dot_not_mem_of_mem_pieces (List.getLast_mem _)

/-- What stands in front of a name makes no difference to the last piece of it. -/
theorem last_append (path name : String) : last (path ++ "." ++ name) = last name := by
  have whole : (path ++ "." ++ name).toList = path.toList ++ '.' :: name.toList := by simp
  simp only [last_eq, whole, pieces_append, List.getLast_append_of_ne_nil _ (pieces_ne_nil _)]

/-- A plain name is its own last piece. -/
theorem last_of_plain {name : String} (plain : Plain name) : last name = name := by
  simp [last_eq, pieces_of_not_mem plain]

/-- The names in a path are plain. -/
theorem plain_of_mem_segments {name path : String} (h : name ∈ segments path) : Plain name := by
  obtain ⟨piece, member, rfl⟩ := List.mem_map.1 h
  rw [Plain, String.toList_ofList]
  exact dot_not_mem_of_mem_pieces member

end FieldPath

end GuidedDecoding
