/-!
# Dotted field paths

A field nested in objects is named by the names on the way to it with dots between them. The
pieces of a text hold no dot, and with dots between them they are the text again.
-/

namespace GuidedDecoding

namespace FieldPath

/-- The pieces of a text between its dots; a text without a dot is one piece. -/
def pieces : List Char → List (List Char)
  | [] => [[]]
  | c :: rest =>
    match pieces rest with
    | [] => [[c]]
    | first :: more => if c = '.' then [] :: first :: more else (c :: first) :: more

theorem pieces_ne_nil (cs : List Char) : pieces cs ≠ [] := by
  cases cs with
  | nil => simp [pieces]
  | cons c rest =>
    unfold pieces
    split
    · simp
    · split <;> simp

theorem intercalate_pieces (cs : List Char) : ['.'].intercalate (pieces cs) = cs := by
  induction cs with
  | nil => rfl
  | cons c rest ih =>
    unfold pieces
    split
    · next none_left => exact absurd none_left (pieces_ne_nil rest)
    · next first more found =>
      rw [found] at ih
      split
      · next dot => subst dot; cases more <;> simpa using ih
      · cases more <;> simpa using ih

theorem dot_not_mem_of_mem_pieces {cs piece : List Char} (h : piece ∈ pieces cs) :
    ¬ '.' ∈ piece := by
  induction cs generalizing piece with
  | nil => simp_all [pieces]
  | cons c rest ih =>
    unfold pieces at h
    split at h
    · next none_left => exact absurd none_left (pieces_ne_nil rest)
    · next first more found =>
      rw [found] at ih
      split at h
      · rcases List.mem_cons.1 h with rfl | h
        · simp
        · exact ih h
      · next not_dot =>
        rcases List.mem_cons.1 h with rfl | h
        · simpa [Ne.symm not_dot] using ih List.mem_cons_self
        · exact ih (List.mem_cons_of_mem _ h)

/-- The names in a path. -/
def segments (path : String) : List String := (pieces path.toList).map String.ofList

/-- The last name in a path. -/
def last (path : String) : String := (segments path).getLastD path

end FieldPath

end GuidedDecoding
