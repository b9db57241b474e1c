import GuidedDecoding.Proofs.Error.Blame
import GuidedDecoding.Proofs.Schema.Declared
import GuidedDecoding.Proofs.Schema.Sources

/-!
# Whom a schema that does not merge blames

Two declarations that cannot both hold blame the constraints that declared the two fields. One of
these is the constraint whose turn it is, and at whatever depth the fields meet, the others come
from constraints that were merged before.
-/

namespace GuidedDecoding

namespace Schema

open SchemaType (fieldsOfDeclared ofDeclared mem_sourcesOfFields_iff sourcesOfFields)

variable {p : String → Prop} {path source : String} {fields : List (String × SchemaField)}
  {e : CompileError}

/-- Types that do not merge are of two kinds, or have parts that do not merge. -/
theorem mergeType_eq_error_cases {sources others : NameSet} {mine theirs : SchemaType}
    (h : mergeType path sources others mine theirs = .error e) :
    (∃ existing declared, e = mismatch path existing declared sources others) ∨
      (∃ fields incoming, mine = .object fields ∧ theirs = .object incoming ∧
        mergeFields path fields incoming = .error e) ∨
      ∃ items incoming, mine = .array items ∧ theirs = .array incoming ∧
        mergeType (path ++ "[]") sources others items incoming = .error e := by
  cases theirs with
  | object incoming =>
    cases mine with
    | object fields =>
      rw [mergeType, Outcome.map_eq_error_iff] at h
      exact .inr (.inl ⟨_, _, rfl, rfl, h⟩)
    | _ => exact .inl ⟨_, _, (Except.error.inj h).symm⟩
  | array incoming =>
    cases mine with
    | array items =>
      rw [mergeType, Outcome.map_eq_error_iff] at h
      exact .inr (.inr ⟨_, _, rfl, rfl, h⟩)
    | _ => exact .inl ⟨_, _, (Except.error.inj h).symm⟩
  | number => cases mine <;> first | exact .inl ⟨_, _, (Except.error.inj h).symm⟩ | cases h
  | integer => cases mine <;> first | exact .inl ⟨_, _, (Except.error.inj h).symm⟩ | cases h
  | string => cases mine <;> first | exact .inl ⟨_, _, (Except.error.inj h).symm⟩ | cases h
  | boolean => cases mine <;> first | exact .inl ⟨_, _, (Except.error.inj h).symm⟩ | cases h
  | null => cases mine <;> first | exact .inl ⟨_, _, (Except.error.inj h).symm⟩ | cases h

theorem concerns_mismatch {existing declared : String} {sources : NameSet} (blamed : p source)
    (known : ∀ id ∈ sources, p id) :
    (mismatch path existing declared sources (.singleton source)).Concerns p := by
  have listed : ∀ id,
      id ∈ (sources.union (.singleton source)).toList ↔ id ∈ sources ∨ id = source :=
    fun id => NameSet.mem_union.trans (or_congr_right NameSet.mem_singleton)
  refine CompileError.concerns_inconsistent ⟨source, (listed _).2 (.inr rfl)⟩ fun id member => ?_
  rcases (listed id).1 member with old | rfl
  · exact known id old
  · exact blamed

theorem concerns_of_leaf {sources : NameSet} {mine theirs : SchemaType} (blamed : p source)
    (known : ∀ id ∈ sources, p id)
    (h : mergeType path sources (.singleton source) mine theirs = .error e)
    (noObject : ∀ incoming, theirs ≠ .object incoming)
    (noArray : ∀ incoming, theirs ≠ .array incoming) : e.Concerns p := by
  rcases mergeType_eq_error_cases h with ⟨_, _, rfl⟩ | ⟨_, _, -, object, -⟩ | ⟨_, _, -, array, -⟩
  · exact concerns_mismatch blamed known
  · exact absurd object (noObject _)
  · exact absurd array (noArray _)

/-- A field that does not go with the field in its place blames whom merging the two blames. -/
theorem exists_of_addField_eq_error {slot : SchemaField}
    (h : addField fields path slot = .error e) :
    ∃ mine, Keyed.get? (FieldPath.last path) fields = some mine ∧
      mergeType path mine.sources slot.sources mine.type slot.type = .error e := by
  cases found : Keyed.get? (FieldPath.last path) fields with
  | none =>
    rw [addField_of_absent found] at h
    cases h
  | some mine =>
    rw [addField_of_present found, Outcome.map_eq_error_iff, mergeSlot,
      Outcome.map_eq_error_iff] at h
    exact ⟨mine, rfl, h⟩

/-- Whoever names a field of an object or something inside it is known. -/
theorem known_of_get? {name : String} {mine : SchemaField}
    (known : ∀ id ∈ sourcesOfFields fields, p id) (found : Keyed.get? name fields = some mine) :
    (∀ id ∈ mine.sources, p id) ∧ ∀ id ∈ mine.type.sources, p id := by
  have inside : ∀ id, mine.Names id → p id := fun id names =>
    known id (mem_sourcesOfFields_iff.2 ⟨_, Keyed.mem_of_get? found, names⟩)
  exact ⟨fun id named => inside id (.inl named), fun id named => inside id (.inr named)⟩

mutual

/-- A declared type that does not go with a type blames the constraint that declared it, and
constraints that the other comes from. -/
theorem concerns_of_mergeType (blamed : p source) : ∀ (t : FieldType) {path : String}
    {sources : NameSet} {mine : SchemaType}, (∀ id ∈ sources, p id) → (∀ id ∈ mine.sources, p id) →
      mergeType path sources (.singleton source) mine (ofDeclared source t) = .error e →
        e.Concerns p
  | .object declared, _, _, _, known, within, h => by
    rcases mergeType_eq_error_cases h with ⟨_, _, rfl⟩ | ⟨fields, _, rfl, ⟨⟩, h⟩ | ⟨_, _, _, ⟨⟩, _⟩
    · exact concerns_mismatch blamed known
    · exact concerns_of_mergeFields blamed declared within h
  | .array items, _, _, _, known, within, h => by
    rcases mergeType_eq_error_cases h with ⟨_, _, rfl⟩ | ⟨_, _, _, ⟨⟩, _⟩ | ⟨mine, _, rfl, ⟨⟩, h⟩
    · exact concerns_mismatch blamed known
    · have inside : ∀ id ∈ mine.sources, p id := within
      exact concerns_of_mergeType blamed items known inside h
  | .string, _, _, _, known, _, h => concerns_of_leaf blamed known h nofun nofun
  | .number, _, _, _, known, _, h => concerns_of_leaf blamed known h nofun nofun
  | .integer, _, _, _, known, _, h => concerns_of_leaf blamed known h nofun nofun
  | .boolean, _, _, _, known, _, h => concerns_of_leaf blamed known h nofun nofun
  | .null, _, _, _, known, _, h => concerns_of_leaf blamed known h nofun nofun

theorem concerns_of_mergeFields (blamed : p source) :
    ∀ (declared : List (String × Member FieldType)) {path : String}
      {fields : List (String × SchemaField)}, (∀ id ∈ sourcesOfFields fields, p id) →
      mergeFields path fields (fieldsOfDeclared source declared) = .error e → e.Concerns p
  | [], _, _, _, h => by cases h
  | (name, m) :: rest, _, _, known, h => by
    rw [fieldsOfDeclared, mergeFields_cons] at h
    rcases Outcome.bind_eq_error_iff.1 h with first | ⟨filed, first, others⟩
    · obtain ⟨mine, found, first⟩ := exists_of_addField_eq_error first
      obtain ⟨own, inside⟩ := known_of_get? known found
      exact concerns_of_mergeType blamed m.type own inside first
    · refine concerns_of_mergeFields blamed rest (fun id named => ?_) others
      rcases (mem_sources_of_addField first fun _ _ done =>
        names_of_mergeSlot done fun _ h => mem_sources_of_mergeType _ h).1 named with old | new
      · exact known id old
      · rcases new with own | inside
        · exact NameSet.mem_singleton.1 own ▸ blamed
        · exact SchemaType.eq_of_mem_sources_ofDeclared m.type inside ▸ blamed

end

variable {c : Constraint} {l : List Constraint}

theorem concerns_of_declared (h : declared c = .error e) : e.Concerns (· = c.id) := by
  unfold declared at h
  split at h
  · split at h
    · cases h
      exact CompileError.concerns_invalidConstraint rfl
    · split at h <;> cases h
      exact CompileError.concerns_invalidConstraint rfl
  · cases h
    exact CompileError.concerns_invalidConstraint rfl

/-- A declaration that cannot be added blames its constraint, and constraints added before. -/
theorem concerns_of_declare (blamed : p c.id) (known : ∀ id ∈ sourcesOfFields fields, p id)
    (h : declare fields c = .error e) : e.Concerns p := by
  rcases Outcome.bind_eq_error_iff.1 h with malformed | ⟨⟨name, slot⟩, declares, clash⟩
  · exact (concerns_of_declared malformed).mono fun _ same => same ▸ blamed
  · obtain ⟨mine, found, clash⟩ := exists_of_addField_eq_error clash
    obtain ⟨own, inside⟩ := known_of_get? known found
    have every : c.EveryObject fun _ => True :=
      fun _ type _ _ => type.everyObject_of_forall fun _ => trivial
    obtain ⟨-, t, -, optional, rfl⟩ := declaredBy_of_declared every (fun _ _ => trivial) declares
    exact concerns_of_mergeType blamed t own inside clash

/-- When constraints have no common schema, some of them are blamed and no others. -/
theorem concerns_of_ofConstraints (h : ofConstraints l = .error e) :
    e.Concerns fun id => ∃ c ∈ l, c.id = id := by
  unfold ofConstraints at h
  split at h
  · cases h
  · rw [Outcome.map_eq_error_iff, ofDeclarations, Outcome.map_eq_error_iff] at h
    obtain ⟨before, c, after, fields, split, done, failed⟩ :=
      Outcome.exists_of_foldlM_eq_error h
    have targeted : ∀ d, d ∈ before ++ c :: after → d ∈ l :=
      fun d member => List.mem_of_mem_filter (split ▸ member)
    have own : c ∈ before ++ c :: after := List.mem_append_right _ List.mem_cons_self
    refine concerns_of_declare ⟨c, targeted c own, rfl⟩ (fun id named => ?_) failed
    rw [mem_sources_of_foldlM_declare done] at named
    rcases named with none_yet | ⟨d, earlier, same⟩
    · exact absurd none_yet NameSet.not_mem_empty
    · exact ⟨d, targeted d (List.mem_append_left _ earlier), same⟩

end Schema

end GuidedDecoding
