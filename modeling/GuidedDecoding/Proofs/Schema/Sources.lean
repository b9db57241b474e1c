import GuidedDecoding.Proofs.Schema.Declared

/-!
# The constraints that a schema names

A schema names exactly the constraints that it was made of. Wherever two fields are merged, at
whatever depth, the merged field names what either of the two names and nothing else.
-/

namespace GuidedDecoding

/-- The field names a constraint, or a field inside it does. -/
def SchemaSlot.Names (slot : SchemaField) (id : String) : Prop :=
  id ∈ slot.sources ∨ id ∈ slot.type.sources

namespace SchemaType

variable {id source : String}

theorem mem_sourcesOfFields_iff {fields : List (String × SchemaField)} :
    id ∈ sourcesOfFields fields ↔ ∃ e ∈ fields, e.2.Names id := by
  induction fields with
  | nil => simp [sourcesOfFields]
  | cons e rest ih =>
    simp only [sourcesOfFields, NameSet.mem_union, ih, List.mem_cons, exists_eq_or_imp,
      SchemaSlot.Names]

mutual

/-- A declared type names nothing but the constraint that declared it. -/
theorem eq_of_mem_sources_ofDeclared :
    ∀ t : FieldType, id ∈ (ofDeclared source t).sources → id = source
  | .array items, h => eq_of_mem_sources_ofDeclared items h
  | .object fields, h => eq_of_mem_sources_fieldsOfDeclared fields h
  | .string, h => absurd h NameSet.not_mem_empty
  | .number, h => absurd h NameSet.not_mem_empty
  | .integer, h => absurd h NameSet.not_mem_empty
  | .boolean, h => absurd h NameSet.not_mem_empty
  | .null, h => absurd h NameSet.not_mem_empty

theorem eq_of_mem_sources_fieldsOfDeclared : ∀ fields : List (String × Member FieldType),
    id ∈ sourcesOfFields (fieldsOfDeclared source fields) → id = source
  | [], h => absurd h NameSet.not_mem_empty
  | (name, m) :: rest, h => by
    rw [fieldsOfDeclared, sourcesOfFields, NameSet.mem_union, NameSet.mem_union] at h
    rcases h with (own | inside) | later
    · exact NameSet.mem_singleton.1 own
    · exact eq_of_mem_sources_ofDeclared m.type inside
    · exact eq_of_mem_sources_fieldsOfDeclared rest later

end

end SchemaType

/-- Whoever names a field that names lead to names the field they start from. -/
theorem SchemaSlot.names_of_descend {id : String} :
    ∀ (path : List String) {slot inner : SchemaField},
      descend path slot = some inner → inner.Names id → slot.Names id
  | [], _, _, h, names => Option.some.inj h ▸ names
  | name :: rest, slot, _, h, names => by
    rw [descend] at h
    split at h
    · next fields type =>
      obtain ⟨next, found, h⟩ := Option.bind_eq_some_iff.1 h
      refine .inr ?_
      rw [type]
      exact SchemaType.mem_sourcesOfFields_iff.2
        ⟨_, Keyed.mem_of_get? found, names_of_descend rest h names⟩
    · cases h

namespace Schema

open SchemaType (mem_sourcesOfFields_iff sourcesOfFields)

variable {path id : String} {x y m slot : SchemaField}
  {fields filed incoming : List (String × SchemaField)}

theorem mem_sources_of_lookup {s : Schema} (h : s.lookup path = some slot)
    (named : id ∈ slot.sources) : id ∈ s.sources := by
  unfold lookup at h
  split at h
  · cases h
  · next name rest _ =>
    obtain ⟨first, found, h⟩ := Option.bind_eq_some_iff.1 h
    exact mem_sourcesOfFields_iff.2
      ⟨_, Keyed.mem_of_get? found, SchemaSlot.names_of_descend rest h (.inl named)⟩

theorem names_of_mergeSlot (h : mergeSlot path x y = .ok m)
    (types : ∀ merged, mergeType path x.sources y.sources x.type y.type = .ok merged →
      (id ∈ merged.sources ↔ id ∈ x.type.sources ∨ id ∈ y.type.sources)) :
    m.Names id ↔ x.Names id ∨ y.Names id := by
  obtain ⟨merged, merging, rfl⟩ := mergeSlot_eq_ok_iff.1 h
  simp only [SchemaSlot.Names, types merged (mergeType_eq_ok_iff.2 merging), NameSet.mem_union]
  tauto

/-- Adding a field adds what it names, if merging it with another does. -/
theorem mem_sources_of_addField (h : addField fields path slot = .ok filed)
    (merges : ∀ mine merged, mergeSlot path mine slot = .ok merged →
      (merged.Names id ↔ mine.Names id ∨ slot.Names id)) :
    id ∈ sourcesOfFields filed ↔ id ∈ sourcesOfFields fields ∨ slot.Names id := by
  obtain ⟨merged, rfl, cases⟩ := addField_eq_ok_iff.1 h
  have keeps : ∀ old, Keyed.get? (FieldPath.last path) fields = some old →
      old.Names id → merged.Names id := by
    intro old there named
    rcases cases with ⟨absent, -⟩ | ⟨mine, present, done⟩
    · cases absent.symm.trans there
    · cases present.symm.trans there
      exact (merges _ _ done).2 (.inl named)
  rw [mem_sourcesOfFields_iff, mem_sourcesOfFields_iff, Keyed.exists_mem_insert_iff keeps, or_comm]
  rcases cases with ⟨-, rfl⟩ | ⟨mine, present, done⟩
  · rfl
  · have known : mine.Names id → ∃ e ∈ fields, e.2.Names id :=
      fun named => ⟨_, Keyed.mem_of_get? present, named⟩
    rw [merges mine merged done, ← or_assoc, or_iff_left_of_imp known]

mutual

theorem mem_sources_of_mergeType : ∀ (theirs : SchemaType) {path : String} {sources others : NameSet}
    {mine merged : SchemaType}, mergeType path sources others mine theirs = .ok merged →
      (id ∈ merged.sources ↔ id ∈ mine.sources ∨ id ∈ theirs.sources)
  | .object incoming, _, _, _, _, _, h => by
    cases mergeType_eq_ok_iff.1 h with
    | object done =>
      rw [SchemaType.sources, SchemaType.sources, SchemaType.sources]
      exact mem_sources_of_mergeFields incoming done
    | same leaf => exact absurd rfl leaf.2
  | .array incoming, _, _, _, _, _, h => by
    cases mergeType_eq_ok_iff.1 h with
    | array done =>
      rw [SchemaType.sources, SchemaType.sources, SchemaType.sources]
      exact mem_sources_of_mergeType incoming done
    | same leaf => exact absurd rfl leaf.1
  | .string, _, _, _, _, _, h => by cases mergeType_eq_ok_iff.1 h; simp [SchemaType.sources]
  | .number, _, _, _, _, _, h => by cases mergeType_eq_ok_iff.1 h <;> simp [SchemaType.sources]
  | .integer, _, _, _, _, _, h => by cases mergeType_eq_ok_iff.1 h <;> simp [SchemaType.sources]
  | .boolean, _, _, _, _, _, h => by cases mergeType_eq_ok_iff.1 h; simp [SchemaType.sources]
  | .null, _, _, _, _, _, h => by cases mergeType_eq_ok_iff.1 h; simp [SchemaType.sources]

/-- The fields that are merged into others are named with them. -/
theorem mem_sources_of_mergeFields : ∀ (incoming : List (String × SchemaField)) {path : String}
    {fields merged : List (String × SchemaField)}, mergeFields path fields incoming = .ok merged →
      (id ∈ sourcesOfFields merged ↔ id ∈ sourcesOfFields fields ∨ id ∈ sourcesOfFields incoming)
  | [], _, _, _, h => by
    cases h
    simp [sourcesOfFields]
  | (name, ⟨type, optional, sources⟩) :: rest, path, _, _, h => by
    rw [mergeFields_cons, Outcome.bind_eq_ok_iff] at h
    obtain ⟨filed, first, others⟩ := h
    have added : id ∈ sourcesOfFields filed ↔ _ :=
      mem_sources_of_addField first fun mine merged done =>
        names_of_mergeSlot done fun _ h => mem_sources_of_mergeType type h
    rw [mem_sources_of_mergeFields rest others, added, sourcesOfFields, NameSet.mem_union,
      NameSet.mem_union, SchemaSlot.Names, or_assoc]

end

theorem names_nested {leaf : SchemaField} {path : List String} :
    (nested leaf path).Names id ↔ leaf.Names id := by
  induction path with
  | nil => rfl
  | cons name rest ih =>
    have inner : (nested leaf (name :: rest)).Names id ↔
        id ∈ leaf.sources ∨ (nested leaf rest).Names id := by
      simp [nested, SchemaSlot.Names, SchemaType.sources, sourcesOfFields]
    rw [inner, ih, SchemaSlot.Names, or_self_left]

/-- What a constraint declares names the constraint. -/
theorem names_declared {c : Constraint} {name : String} (h : declared c = .ok (name, slot)) :
    slot.Names id ↔ c.id = id := by
  obtain ⟨path, type, optional, first, inner, -, -, -, same⟩ := declared_eq_ok_iff.1 h
  cases same
  rw [names_nested, SchemaSlot.Names, NameSet.mem_singleton, eq_comm, or_iff_left_iff_imp]
  exact fun inside => (SchemaType.eq_of_mem_sources_ofDeclared type inside).symm

/-- What a constraint declares adds it to those that are named. -/
theorem mem_sources_of_declare {c : Constraint} (h : declare fields c = .ok filed) :
    id ∈ sourcesOfFields filed ↔ id ∈ sourcesOfFields fields ∨ c.id = id := by
  obtain ⟨⟨name, slot⟩, declares, step⟩ := Outcome.bind_eq_ok_iff.1 h
  rw [← names_declared declares]
  exact mem_sources_of_addField step fun mine merged done =>
    names_of_mergeSlot done fun _ h => mem_sources_of_mergeType slot.type h

theorem mem_sources_of_foldlM_declare {l : List Constraint}
    (h : l.foldlM declare fields = .ok filed) :
    id ∈ sourcesOfFields filed ↔ id ∈ sourcesOfFields fields ∨ ∃ c ∈ l, c.id = id :=
  Outcome.foldlM_adds (fun _ _ _ step => mem_sources_of_declare step) h

/-- The schema of some declarations names those who made them. -/
theorem mem_sources_of_ofDeclarations {l : List Constraint} {s : Schema}
    (h : ofDeclarations l = .ok s) : id ∈ s.sources ↔ ∃ c ∈ l, c.id = id := by
  obtain ⟨fields, done, rfl⟩ := Outcome.map_eq_ok_iff.1 h
  rw [sources, mem_sources_of_foldlM_declare done, sourcesOfFields]
  simp

end Schema

end GuidedDecoding
