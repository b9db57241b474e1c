import GuidedDecoding.Constraint.Codec
import GuidedDecoding.Proofs.Schema.Declared

/-!
# Constraints that can be read

The members of an object type that was read are filed by their names, so a constraint that was read
has an ordered type.
-/

namespace GuidedDecoding

namespace Json

theorem required_eq_some_iff {α : Type} {read : Json → Option α} {given : Option Json} {a : α} :
    required read given = some a ↔ ∃ doc, given = some doc ∧ read doc = some a := by
  cases given with
  | none => simp [required]
  | some doc => simp [required]

theorem exists_of_mem_entries? {α : Type} {read : Json → Option α} {doc : Json}
    {entries : List (String × α)} (h : entries? read doc = some entries) {e : String × α}
    (member : e ∈ entries) : ∃ value, read value = some e.2 := by
  cases doc with
  | obj fields =>
    rw [entries?] at h
    induction fields generalizing entries with
    | nil =>
      cases h
      exact absurd member List.not_mem_nil
    | cons f rest ih =>
      rw [List.mapM_cons, Option.bind_eq_bind, Option.bind_eq_some_iff] at h
      obtain ⟨first, read_first, h⟩ := h
      obtain ⟨others, later, same⟩ := Option.bind_eq_some_iff.1 h
      cases same
      rcases List.mem_cons.1 member with rfl | inOthers
      · obtain ⟨a, value, same⟩ := Option.map_eq_some_iff.1 read_first
        cases same
        exact ⟨f.2, value⟩
      · exact ih inOthers later
  | _ => cases h

theorem exists_of_mem_defaulted_entries? {α : Type} {read : Json → Option α} {given : Option Json}
    {entries : List (String × α)} (h : defaulted [] (entries? read) given = some entries)
    {e : String × α} (member : e ∈ entries) : ∃ value, read value = some e.2 := by
  cases given with
  | none =>
    cases h
    exact absurd member List.not_mem_nil
  | some doc => exact exists_of_mem_entries? h member

end Json

namespace FieldType

theorem ordered_of_ofJsonWithin? {fuel : Nat} {loose : Bool} {doc : Json} {t : FieldType}
    (h : ofJsonWithin? fuel loose doc = some t) : t.EveryObject (List.Pairwise (· < ·)) := by
  induction fuel generalizing loose doc t with
  | zero => exact absurd h (by simp [ofJsonWithin?])
  | succ fuel ih =>
    rw [ofJsonWithin?, Option.bind_eq_bind, Option.bind_eq_some_iff] at h
    obtain ⟨⟨tag, body⟩, -, h⟩ := h
    dsimp only at h
    split at h
    · -- An array type is read from its items.
      obtain ⟨parts, -, h⟩ := Option.bind_eq_some_iff.1 h
      split at h
      · obtain ⟨items, read, same⟩ := Option.bind_eq_some_iff.1 h
        cases same
        obtain ⟨inner, -, read⟩ := Json.required_eq_some_iff.1 read
        rw [EveryObject]
        exact ih read
      · cases h
    · -- The members of an object type are filed by their names.
      obtain ⟨parts, -, h⟩ := Option.bind_eq_some_iff.1 h
      split at h
      · next fields =>
        obtain ⟨entries, read, same⟩ := Option.bind_eq_some_iff.1 h
        cases same
        refine ⟨Keyed.sorted_ofList entries, everyMember_iff.2 fun e member => ?_⟩
        obtain ⟨value, readMember⟩ :=
          Json.exists_of_mem_defaulted_entries? read (Keyed.mem_of_mem_ofList member)
        obtain ⟨parts, -, readMember⟩ := Option.bind_eq_some_iff.1 readMember
        split at readMember
        · obtain ⟨type, readType, h⟩ := Option.bind_eq_some_iff.1 readMember
          obtain ⟨optional, -, same⟩ := Option.bind_eq_some_iff.1 h
          rw [← Option.some.inj same]
          obtain ⟨inner, -, readType⟩ := Json.required_eq_some_iff.1 readType
          exact ih readType
        · cases readMember
      · cases h
    all_goals
      first
      | cases h
      | (obtain ⟨_, -, rfl⟩ := Option.map_eq_some_iff.1 h; exact trivial)

end FieldType

theorem Payload.ordered_of_ofJson? {loose : Bool} {doc : Json} {path : String} {type : FieldType}
    {optional : Bool} (h : ofJson? loose doc = some (.field path type optional)) :
    type.EveryObject (List.Pairwise (· < ·)) := by
  rw [ofJson?, Option.bind_eq_bind, Option.bind_eq_some_iff] at h
  obtain ⟨⟨tag, body⟩, -, h⟩ := h
  dsimp only at h
  split at h
  · obtain ⟨parts, -, h⟩ := Option.bind_eq_some_iff.1 h
    split at h
    · obtain ⟨_, -, h⟩ := Option.bind_eq_some_iff.1 h
      obtain ⟨_, read, h⟩ := Option.bind_eq_some_iff.1 h
      obtain ⟨_, -, same⟩ := Option.bind_eq_some_iff.1 h
      cases same
      obtain ⟨inner, -, read⟩ := Json.required_eq_some_iff.1 read
      exact FieldType.ordered_of_ofJsonWithin? read
    · cases h
  -- The other payloads have no type.
  all_goals
    first
    | cases h
    | (obtain ⟨parts, -, h⟩ := Option.bind_eq_some_iff.1 h
       split at h <;> simp [Option.bind_eq_some_iff] at h)

namespace Constraint

/-- The type of a constraint that was read is ordered. -/
theorem typeOrdered_of_ofJson? {doc : Json} {c : Constraint} (h : ofJson? doc = some c) :
    c.TypeOrdered := by
  rw [ofJson?, Option.bind_eq_bind, Option.bind_eq_some_iff] at h
  obtain ⟨parts, -, h⟩ := h
  split at h
  · obtain ⟨_, -, h⟩ := Option.bind_eq_some_iff.1 h
    obtain ⟨_, -, h⟩ := Option.bind_eq_some_iff.1 h
    obtain ⟨_, -, h⟩ := Option.bind_eq_some_iff.1 h
    obtain ⟨_, -, h⟩ := Option.bind_eq_some_iff.1 h
    obtain ⟨_, -, h⟩ := Option.bind_eq_some_iff.1 h
    obtain ⟨payload, read, h⟩ := Option.bind_eq_some_iff.1 h
    obtain ⟨_, -, h⟩ := Option.bind_eq_some_iff.1 h
    obtain ⟨_, -, h⟩ := Option.bind_eq_some_iff.1 h
    obtain ⟨_, -, h⟩ := Option.bind_eq_some_iff.1 h
    obtain ⟨_, -, same⟩ := Option.bind_eq_some_iff.1 h
    obtain ⟨inner, -, read⟩ := Json.required_eq_some_iff.1 read
    intro path type optional isField
    rw [← Option.some.inj same] at isField
    rw [show payload = .field path type optional from isField] at read
    exact Payload.ordered_of_ofJson? read
  · cases h

end Constraint

end GuidedDecoding
