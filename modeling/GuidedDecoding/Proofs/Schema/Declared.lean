import GuidedDecoding.Proofs.Schema.Uniting

/-!
# What one constraint declares

A constraint declares an object with one field, which has a plain name. Every field inside it has
the constraint as its only source. What is so of the names in every object of the declared type is
so of the names in every object inside the field.
-/

namespace GuidedDecoding

mutual

/-- Something holds of the names of each object type inside a declared type. -/
def FieldType.EveryObject (p : List String → Prop) : FieldType → Prop
  | .array items => items.EveryObject p
  | .object fields => p (fields.map Prod.fst) ∧ everyMember p fields
  | _ => True

/-- Something holds of the names of each object type inside the members of an object type. -/
def everyMember (p : List String → Prop) : List (String × Member FieldType) → Prop
  | [] => True
  | (_, m) :: rest => m.type.EveryObject p ∧ everyMember p rest

end

namespace Constraint

/-- Something holds of the names of each object type that the constraint declares. -/
def EveryObject (p : List String → Prop) (c : Constraint) : Prop :=
  ∀ path type optional, c.payload = .field path type optional → type.EveryObject p

/-- The names in a declared object type increase. -/
def TypeOrdered (c : Constraint) : Prop := c.EveryObject (List.Pairwise (· < ·))

/-- The names in a declared object type are pieces of a path. -/
def NamesPlain (c : Constraint) : Prop :=
  c.EveryObject fun names => ∀ name ∈ names, FieldPath.Plain name

theorem everyObject_ofField {p : List String → Prop} {id path : String} {priority : Priority}
    {t : FieldType} (h : t.EveryObject p) : (ofField id priority path t).EveryObject p := by
  intro path type optional payload
  cases payload
  exact h

end Constraint

mutual

/-- What holds of all names holds of those in each object type. -/
theorem FieldType.everyObject_of_forall {p : List String → Prop} (all : ∀ names, p names) :
    ∀ t : FieldType, t.EveryObject p
  | .array items => items.everyObject_of_forall all
  | .object fields => ⟨all _, everyMember_of_forall all fields⟩
  | .string | .number | .integer | .boolean | .null => trivial

theorem everyMember_of_forall {p : List String → Prop} (all : ∀ names, p names) :
    ∀ fields : List (String × Member FieldType), everyMember p fields
  | [] => trivial
  | (_, m) :: rest => ⟨m.type.everyObject_of_forall all, everyMember_of_forall all rest⟩

end

theorem everyMember_iff {p : List String → Prop} {fields : List (String × Member FieldType)} :
    everyMember p fields ↔ ∀ e ∈ fields, e.2.type.EveryObject p := by
  induction fields with
  | nil => simp [everyMember]
  | cons e rest ih => rw [everyMember, ih, List.forall_mem_cons]

namespace SchemaType

theorem get?_fieldsOfDeclared {source name : String} {fields : List (String × Member FieldType)} :
    Keyed.get? name (fieldsOfDeclared source fields) =
      (Keyed.get? name fields).map fun m =>
        ⟨ofDeclared source m.type, m.optional, .singleton source⟩ := by
  induction fields with
  | nil => simp [fieldsOfDeclared, Keyed.get?]
  | cons e rest ih =>
    obtain ⟨k, m⟩ := e
    rw [fieldsOfDeclared, Keyed.get?_cons, Keyed.get?_cons, ih]
    split <;> rfl

theorem names_fieldsOfDeclared {source : String} {fields : List (String × Member FieldType)} :
    (fieldsOfDeclared source fields).map Prod.fst = fields.map Prod.fst := by
  induction fields with
  | nil => simp [fieldsOfDeclared]
  | cons e rest ih =>
    obtain ⟨k, m⟩ := e
    rw [fieldsOfDeclared, List.map_cons, List.map_cons, ih]

end SchemaType

namespace SchemaSlot

/-- A field of a declared type, with everything inside it from one source, and something that holds
of the names of each object. -/
def DeclaredBy (p : List String → Prop) (source : String) (slot : SchemaField) : Prop :=
  ∃ t : FieldType, t.EveryObject p ∧ ∃ optional,
    slot = ⟨.ofDeclared source t, optional, .singleton source⟩

namespace DeclaredBy

variable {p : List String → Prop} {source : String} {slot x : SchemaField}

theorem inner {step : Step} (h : DeclaredBy p source slot) (inside : slot.inner? step = some x) :
    DeclaredBy p source x := by
  obtain ⟨t, every, optional, rfl⟩ := h
  cases t with
  | object members =>
    cases step with
    | field name =>
      have found : Keyed.get? name (SchemaType.fieldsOfDeclared source members) = some x := inside
      rw [SchemaType.get?_fieldsOfDeclared, Option.map_eq_some_iff] at found
      obtain ⟨m, present, rfl⟩ := found
      have member := everyMember_iff.1 every.2 _ (Keyed.mem_of_get? present)
      exact ⟨m.type, member, m.optional, rfl⟩
    | items => cases inside
  | array items =>
    cases step with
    | field name => cases inside
    | items =>
      cases inside
      exact ⟨items, every, optional, rfl⟩
  | _ => cases step <;> cases inside

theorem below {address : List Step} (h : DeclaredBy p source slot)
    (there : slot.at? address = some x) : DeclaredBy p source x := by
  induction address generalizing slot with
  | nil =>
    cases there
    exact h
  | cons step rest ih =>
    rw [at?_cons, Option.bind_eq_some_iff] at there
    obtain ⟨y, inside, there⟩ := there
    exact ih (h.inner inside) there

theorem sources (h : DeclaredBy p source slot) : slot.sources = .singleton source := by
  obtain ⟨t, -, optional, rfl⟩ := h
  rfl

theorem names (h : DeclaredBy p source slot) {fields : List (String × SchemaField)}
    (type : slot.type = .object fields) : p (Keyed.names fields) := by
  obtain ⟨t, every, optional, rfl⟩ := h
  cases t with
  | object members =>
    cases type
    rw [Keyed.names, SchemaType.names_fieldsOfDeclared]
    exact every.1
  | _ => cases type

/-- An object with one field is declared by the constraint that declares the field. -/
theorem object (h : DeclaredBy p source slot) {name : String} (single : p [name])
    (optional : Bool) :
    DeclaredBy p source ⟨.object [(name, slot)], optional, .singleton source⟩ := by
  obtain ⟨t, every, inner, rfl⟩ := h
  refine ⟨.object [(name, ⟨t, inner⟩)], ⟨single, every, trivial⟩, optional, ?_⟩
  simp [SchemaType.ofDeclared, SchemaType.fieldsOfDeclared]

theorem nested (h : DeclaredBy p source slot) {path : List String}
    (single : ∀ name ∈ path, p [name]) : DeclaredBy p source (Schema.nested slot path) := by
  induction path with
  | nil => exact h
  | cons name rest ih =>
    obtain ⟨first, others⟩ := List.forall_mem_cons.1 single
    have outer := (ih others).object first slot.optional
    rw [← h.sources] at outer
    exact outer

end DeclaredBy

end SchemaSlot

namespace Schema

open FieldPath (Plain)
open SchemaSlot (DeclaredBy)

variable {c : Constraint} {p : List String → Prop} {source name : String} {slot x : SchemaField}

/-- What a constraint declares is the leaf of its path inside the objects on the way to it. -/
theorem declared_eq_ok_iff {d : String × SchemaField} :
    declared c = .ok d ↔ ∃ path type optional first inner,
      c.payload = .field path type optional ∧ FieldPath.segments path = first :: inner ∧
      (∀ name ∈ first :: inner, Text.allBlank name = false) ∧
      d = (first, nested ⟨.ofDeclared c.id type, optional, .singleton c.id⟩ inner) := by
  unfold declared
  constructor
  · intro h
    split at h
    · next path type optional payload =>
      split at h
      · cases h
      · next first inner segments =>
        split at h
        · cases h
        · next written =>
          cases h
          rw [List.any_eq_true, not_exists] at written
          exact ⟨path, type, optional, first, inner, payload, segments,
            fun name member => by simpa [member] using written name, rfl⟩
    · cases h
  · rintro ⟨path, type, optional, first, inner, payload, segments, written, rfl⟩
    have noBlank : ¬ (first :: inner).any Text.allBlank = true := by
      rw [List.any_eq_true]
      rintro ⟨name, member, blank⟩
      exact absurd blank (by simp [written name member])
    simp only [payload, segments, if_neg noBlank]

/-- What a constraint declares has a plain name, and nothing else has declared any of it. -/
theorem declaredBy_of_declared (every : c.EveryObject p) (single : ∀ name, Plain name → p [name])
    (h : declared c = .ok (name, slot)) : Plain name ∧ DeclaredBy p c.id slot := by
  obtain ⟨path, type, optional, first, inner, payload, segments, -, same⟩ := declared_eq_ok_iff.1 h
  cases same
  have plain : ∀ piece ∈ name :: inner, Plain piece :=
    fun piece member => FieldPath.plain_of_mem_segments (segments ▸ member)
  have leaf : DeclaredBy p c.id ⟨.ofDeclared c.id type, optional, .singleton c.id⟩ :=
    ⟨type, every path type optional payload, optional, rfl⟩
  refine ⟨plain name List.mem_cons_self, leaf.nested fun piece member => ?_⟩
  exact single piece (plain piece (List.mem_cons_of_mem _ member))

theorem inner?_whole_singleton {step : Step} :
    (whole [(name, slot)]).inner? step = some x ↔ step = .field name ∧ slot = x := by
  cases step with
  | field k =>
    have look : (whole [(name, slot)]).inner? (.field k) = Keyed.get? k [(name, slot)] := rfl
    rw [look, Keyed.get?_cons, Keyed.get?]
    by_cases same : name = k
    · simp [same]
    · simp [same, Ne.symm same]
  | items => simp [whole, SchemaSlot.inner?]

/-- All that is inside the object of a declared field was declared by the same constraint. -/
theorem declaredBy_of_inside (h : DeclaredBy p source slot) {step : Step} {rest : List Step}
    (there : (whole [(name, slot)]).at? (step :: rest) = some x) : DeclaredBy p source x := by
  rw [SchemaSlot.at?_cons, Option.bind_eq_some_iff] at there
  obtain ⟨y, inside, there⟩ := there
  obtain ⟨-, rfl⟩ := inner?_whole_singleton.1 inside
  exact h.below there

/-- What holds of the names in all objects inside a declared field holds of its own name, too. -/
theorem names_of_whole_singleton (h : DeclaredBy p source slot) (single : p [name])
    {address : List Step} {fields : List (String × SchemaField)}
    (there : (whole [(name, slot)]).at? address = some x) (type : x.type = .object fields) :
    p (Keyed.names fields) := by
  cases address with
  | nil =>
    cases there
    cases type
    exact single
  | cons step rest => exact (declaredBy_of_inside h there).names type

/-- The declaration of a constraint with an ordered type. -/
theorem declaredBy_of_typeOrdered (ordered : c.TypeOrdered) (h : declared c = .ok (name, slot)) :
    Plain name ∧ DeclaredBy (List.Pairwise (· < ·)) c.id slot :=
  declaredBy_of_declared ordered (fun _ _ => List.pairwise_singleton _ _) h

theorem ordered_whole_singleton (h : DeclaredBy (List.Pairwise (· < ·)) source slot) :
    (whole [(name, slot)]).Ordered := by
  intro address x fields there type
  exact names_of_whole_singleton h (List.pairwise_singleton _ _) there type

end Schema

end GuidedDecoding
