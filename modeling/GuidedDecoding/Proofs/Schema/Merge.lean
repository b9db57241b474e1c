import GuidedDecoding.Proofs.FieldPath
import GuidedDecoding.Proofs.Outcome
import GuidedDecoding.Proofs.Schema.Union
import GuidedDecoding.Schema.Merge

/-!
# Merging two fields, one level down

A type merges with another of its kind, or a number with an integer. Of two objects, the fields with
one name are merged in turn and the others stay, provided that the names are plain: a field that is
merged into an object is filed under the last piece of its name.
-/

namespace GuidedDecoding

namespace Schema

open FieldPath (Plain last)

/-- Two fields at a path as one. -/
def mergeSlot (path : String) (mine theirs : SchemaField) : Except CompileError SchemaField :=
  (mergeType path mine.sources theirs.sources mine.type theirs.type).map fun merged =>
    ⟨merged, mine.optional && theirs.optional, mine.sources.union theirs.sources⟩

theorem addField_of_absent {fields : List (String × SchemaField)} {path : String}
    {slot : SchemaField} (h : Keyed.get? (last path) fields = none) :
    addField fields path slot = .ok (Keyed.insert (last path) slot fields) := by
  simp only [addField, h]

theorem addField_of_present {fields : List (String × SchemaField)} {path : String}
    {slot mine : SchemaField} (h : Keyed.get? (last path) fields = some mine) :
    addField fields path slot =
      (mergeSlot path mine slot).map fun merged => Keyed.insert (last path) merged fields := by
  simp only [addField, h, mergeSlot]
  cases mergeType path mine.sources slot.sources mine.type slot.type <;> rfl

theorem mergeFields_cons {path name : String} {fields rest : List (String × SchemaField)}
    {slot : SchemaField} :
    mergeFields path fields ((name, slot) :: rest) =
      addField fields (path ++ "." ++ name) slot >>= fun filed => mergeFields path filed rest := by
  obtain ⟨type, optional, sources⟩ := slot
  cases h : Keyed.get? (last (path ++ "." ++ name)) fields with
  | none =>
    rw [addField_of_absent h]
    simp only [mergeFields, h]
    rfl
  | some mine =>
    rw [addField_of_present h]
    simp only [mergeFields, h, mergeSlot]
    cases mergeType (path ++ "." ++ name) mine.sources sources mine.type type <;> rfl

theorem addField_eq_ok_iff {fields filed : List (String × SchemaField)} {path : String}
    {slot : SchemaField} :
    addField fields path slot = .ok filed ↔
      ∃ merged, Keyed.insert (last path) merged fields = filed ∧
        (Keyed.get? (last path) fields = none ∧ merged = slot ∨
          ∃ mine, Keyed.get? (last path) fields = some mine ∧
            mergeSlot path mine slot = .ok merged) := by
  cases h : Keyed.get? (last path) fields with
  | none =>
    rw [addField_of_absent h]
    simp
  | some mine =>
    rw [addField_of_present h, Outcome.map_eq_ok_iff]
    simp [and_comm]

/-- The types that merge to a type. -/
inductive Merging (path : String) (sources others : NameSet) :
    SchemaType → SchemaType → SchemaType → Prop where
  | object {fields incoming merged : List (String × SchemaField)}
      (h : mergeFields path fields incoming = .ok merged) :
      Merging path sources others (.object fields) (.object incoming) (.object merged)
  | array {items incoming merged : SchemaType}
      (h : mergeType (path ++ "[]") sources others items incoming = .ok merged) :
      Merging path sources others (.array items) (.array incoming) (.array merged)
  | same {t : SchemaType} (leaf : t.name ≠ "array" ∧ t.name ≠ "object") :
      Merging path sources others t t t
  | integerToo : Merging path sources others .number .integer .integer
  | numberToo : Merging path sources others .integer .number .integer

/-- Only objects merge to an object. -/
theorem Merging.exists_fields {path : String} {sources others : NameSet}
    {mine theirs merged : SchemaType} (h : Merging path sources others mine theirs merged)
    {filed : List (String × SchemaField)} (object : merged = .object filed) :
    ∃ fields incoming, mine = .object fields ∧ theirs = .object incoming ∧
      mergeFields path fields incoming = .ok filed := by
  cases h with
  | object done =>
    cases object
    exact ⟨_, _, rfl, rfl, done⟩
  | same leaf =>
    rw [object] at leaf
    exact absurd rfl leaf.2
  | array => cases object
  | integerToo => cases object
  | numberToo => cases object

/-- An object only merges with an object. -/
theorem Merging.exists_incoming {path : String} {sources others : NameSet}
    {mine theirs merged : SchemaType} (h : Merging path sources others mine theirs merged)
    {fields : List (String × SchemaField)} (object : mine = .object fields) :
    ∃ incoming filed, theirs = .object incoming ∧ merged = .object filed ∧
      mergeFields path fields incoming = .ok filed := by
  cases h with
  | object done =>
    cases object
    exact ⟨_, _, rfl, rfl, done⟩
  | same leaf =>
    rw [object] at leaf
    exact absurd rfl leaf.2
  | array => cases object
  | integerToo => cases object
  | numberToo => cases object

theorem mergeType_eq_ok_iff {path : String} {sources others : NameSet}
    {mine theirs merged : SchemaType} :
    mergeType path sources others mine theirs = .ok merged ↔
      Merging path sources others mine theirs merged := by
  constructor
  · intro h
    cases theirs with
    | object incoming =>
      cases mine with
      | object fields =>
        rw [mergeType, Outcome.map_eq_ok_iff] at h
        obtain ⟨merged, done, rfl⟩ := h
        exact .object done
      | _ => exact absurd h (by simp [mergeType])
    | array incoming =>
      cases mine with
      | array items =>
        rw [mergeType, Outcome.map_eq_ok_iff] at h
        obtain ⟨merged, done, rfl⟩ := h
        exact .array done
      | _ => exact absurd h (by simp [mergeType])
    | number =>
      cases mine with
      | number => cases h; exact .same (by decide)
      | integer => cases h; exact .numberToo
      | _ => exact absurd h (by simp [mergeType])
    | integer =>
      cases mine with
      | number => cases h; exact .integerToo
      | integer => cases h; exact .same (by decide)
      | _ => exact absurd h (by simp [mergeType])
    | string =>
      cases mine with
      | string => cases h; exact .same (by decide)
      | _ => exact absurd h (by simp [mergeType])
    | boolean =>
      cases mine with
      | boolean => cases h; exact .same (by decide)
      | _ => exact absurd h (by simp [mergeType])
    | null =>
      cases mine with
      | null => cases h; exact .same (by decide)
      | _ => exact absurd h (by simp [mergeType])
  · intro h
    cases h with
    | object done => rw [mergeType, done]; rfl
    | array done => rw [mergeType, done]; rfl
    | same leaf =>
      cases mine with
      | array => exact absurd rfl leaf.1
      | object => exact absurd rfl leaf.2
      | _ => rfl
    | integerToo => rfl
    | numberToo => rfl

/-- What stands at a step of two fields, and of what they are merged to. -/
inductive Meets : Option SchemaField → Option SchemaField → Option SchemaField → Prop where
  | absent : Meets none none none
  | mine (x : SchemaField) : Meets (some x) none (some x)
  | theirs (y : SchemaField) : Meets none (some y) (some y)
  | both {path : String} {x y m : SchemaField} (h : mergeSlot path x y = .ok m) :
      Meets (some x) (some y) (some m)

theorem meets_none (x : Option SchemaField) : Meets x none x := by
  cases x with
  | none => exact .absent
  | some x => exact .mine x

theorem Meets.eq_of_none {x m : Option SchemaField} (h : Meets x none m) : m = x := by
  cases h with
  | absent => rfl
  | mine => rfl

/-- Adding one field leaves the others alone. -/
theorem meets_of_addField {fields filed : List (String × SchemaField)} {path name : String}
    {slot : SchemaField} (h : addField fields path slot = .ok filed) (place : last path = name)
    (k : String) :
    Meets (Keyed.get? k fields) (Keyed.get? k [(name, slot)]) (Keyed.get? k filed) := by
  subst place
  obtain ⟨merged, rfl, cases⟩ := addField_eq_ok_iff.1 h
  rw [Keyed.get?_insert, Keyed.get?_cons, Keyed.get?]
  by_cases same : last path = k
  · subst same
    rw [if_pos rfl, if_pos rfl]
    rcases cases with ⟨absent, rfl⟩ | ⟨mine, present, done⟩
    · rw [absent]
      exact .theirs merged
    · rw [present]
      exact .both done
  · rw [if_neg same, if_neg same]
    exact meets_none _

/-! ### Fields of an object -/

/-- Fields whose names are plain and different each meet the field of their name. -/
theorem meets_of_mergeFields {path : String} {fields incoming merged : List (String × SchemaField)}
    (h : mergeFields path fields incoming = .ok merged) (distinct : (Keyed.names incoming).Nodup)
    (plain : ∀ name ∈ Keyed.names incoming, Plain name) (k : String) :
    Meets (Keyed.get? k fields) (Keyed.get? k incoming) (Keyed.get? k merged) := by
  induction incoming generalizing fields with
  | nil =>
    cases h
    exact meets_none _
  | cons e rest ih =>
    obtain ⟨name, slot⟩ := e
    rw [mergeFields_cons, Outcome.bind_eq_ok_iff] at h
    obtain ⟨filed, first, others⟩ := h
    obtain ⟨fresh, distinctRest⟩ := List.nodup_cons.1 distinct
    obtain ⟨plainFirst, plainRest⟩ := List.forall_mem_cons.1 plain
    have place := (FieldPath.last_append path name).trans (FieldPath.last_of_plain plainFirst)
    have step := meets_of_addField first place k
    have later := ih others distinctRest plainRest
    rw [Keyed.get?_cons] at step ⊢
    by_cases same : name = k
    · subst same
      rw [Keyed.get?_eq_none_iff.2 fresh] at later
      rw [later.eq_of_none, if_pos rfl]
      rwa [if_pos rfl] at step
    · rw [if_neg same] at step ⊢
      rwa [step.eq_of_none] at later

theorem exists_mergeFields {path : String} {fields incoming : List (String × SchemaField)}
    (distinct : (Keyed.names incoming).Nodup) (plain : ∀ name ∈ Keyed.names incoming, Plain name)
    (each : ∀ k x y, Keyed.get? k fields = some x → Keyed.get? k incoming = some y →
      ∀ path, ∃ m, mergeSlot path x y = .ok m) :
    ∃ merged, mergeFields path fields incoming = .ok merged := by
  induction incoming generalizing fields with
  | nil => exact ⟨fields, rfl⟩
  | cons e rest ih =>
    obtain ⟨name, slot⟩ := e
    obtain ⟨fresh, distinctRest⟩ := List.nodup_cons.1 distinct
    obtain ⟨plainFirst, plainRest⟩ := List.forall_mem_cons.1 plain
    have place := (FieldPath.last_append path name).trans (FieldPath.last_of_plain plainFirst)
    have first : ∃ filed, addField fields (path ++ "." ++ name) slot = .ok filed := by
      cases h : Keyed.get? name fields with
      | none => exact ⟨_, addField_of_absent (by rw [place, h])⟩
      | some mine =>
        obtain ⟨m, done⟩ := each name mine slot h (by simp [Keyed.get?]) (path ++ "." ++ name)
        rw [addField_of_present (by rw [place, h]), done]
        exact ⟨_, rfl⟩
    obtain ⟨filed, first⟩ := first
    have others : ∃ merged, mergeFields path filed rest = .ok merged := by
      refine ih distinctRest plainRest fun k x y mine theirs => ?_
      have ne : name ≠ k := by
        rintro rfl
        rw [Keyed.get?_eq_none_iff.2 fresh] at theirs
        exact absurd theirs (by simp)
      have step := meets_of_addField first place k
      rw [Keyed.get?_cons, if_neg ne] at step
      refine each k x y ?_ (by rw [Keyed.get?_cons, if_neg ne, theirs])
      rw [← mine]
      exact step.eq_of_none.symm
    obtain ⟨merged, others⟩ := others
    exact ⟨merged, by rw [mergeFields_cons, first]; exact others⟩

theorem sorted_of_addField {fields filed : List (String × SchemaField)} {path : String}
    {slot : SchemaField} (h : addField fields path slot = .ok filed)
    (sorted : Keyed.Sorted fields) : Keyed.Sorted filed := by
  obtain ⟨merged, rfl, -⟩ := addField_eq_ok_iff.1 h
  exact Keyed.sorted_insert sorted

theorem sorted_of_mergeFields {path : String} {fields incoming merged : List (String × SchemaField)}
    (h : mergeFields path fields incoming = .ok merged) (sorted : Keyed.Sorted fields) :
    Keyed.Sorted merged := by
  induction incoming generalizing fields with
  | nil =>
    cases h
    exact sorted
  | cons e rest ih =>
    rw [mergeFields_cons, Outcome.bind_eq_ok_iff] at h
    obtain ⟨filed, first, others⟩ := h
    exact ih others (sorted_of_addField first sorted)

end Schema

end GuidedDecoding
