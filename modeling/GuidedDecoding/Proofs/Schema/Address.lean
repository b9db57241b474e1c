import GuidedDecoding.Proofs.Keyed
import GuidedDecoding.Schema.Basic

/-!
# What stands where in a schema

A step leads from a field into its object type, by a name, or to the items of its array type. What
the steps of an address lead to is described by the name of a type, by whether it may be left out
and by its sources. Fields whose entries are sorted at every level are determined by what is
described at each address.
-/

namespace GuidedDecoding

/-- A step from a field to a field inside it. -/
inductive Step where
  | field (name : String)
  | items
deriving DecidableEq

namespace SchemaType

theorem name_eq_array_iff {t : SchemaType} : t.name = "array" ↔ ∃ items, t = .array items := by
  cases t <;> simp [name]

theorem name_eq_object_iff {t : SchemaType} : t.name = "object" ↔ ∃ fields, t = .object fields := by
  cases t <;> simp [name]

end SchemaType

namespace SchemaSlot

/-- The field that a step leads to. The items of an array are taken to be left out and declared as
the array is. -/
def inner? (step : Step) (slot : SchemaField) : Option SchemaField :=
  match step, slot.type with
  | .field name, .object fields => Keyed.get? name fields
  | .items, .array items => some { slot with type := items }
  | _, _ => none

/-- The field at an address. -/
def at? : List Step → SchemaField → Option SchemaField
  | [], slot => some slot
  | step :: rest, slot => (slot.inner? step).bind (at? rest)

variable {slot other : SchemaField}

@[simp] theorem at?_nil : slot.at? [] = some slot := rfl

theorem at?_cons {step : Step} {rest : List Step} :
    slot.at? (step :: rest) = (slot.inner? step).bind (at? rest) := rfl

theorem at?_append {first rest : List Step} :
    slot.at? (first ++ rest) = (slot.at? first).bind (at? rest) := by
  induction first generalizing slot with
  | nil => rfl
  | cons step first ih =>
    rw [List.cons_append, at?_cons, at?_cons, Option.bind_assoc]
    cases slot.inner? step with
    | none => rfl
    | some x => exact ih

theorem inner?_field_of_type {fields : List (String × SchemaField)} (h : slot.type = .object fields)
    (name : String) : slot.inner? (.field name) = Keyed.get? name fields := by
  simp [inner?, h]

theorem inner?_items_of_type {items : SchemaType} (h : slot.type = .array items) :
    slot.inner? .items = some { slot with type := items } := by
  simp [inner?, h]

theorem exists_fields_of_inner? {name : String} (h : slot.inner? (.field name) = some other) :
    ∃ fields, slot.type = .object fields ∧ Keyed.get? name fields = some other := by
  obtain ⟨type, optional, sources⟩ := slot
  cases type with
  | object fields => exact ⟨fields, rfl, h⟩
  | _ => cases h

/-- A step goes to a smaller type. -/
theorem sizeOf_inner? {step : Step} (h : slot.inner? step = some other) :
    sizeOf other.type < sizeOf slot.type := by
  obtain ⟨type, optional, sources⟩ := slot
  unfold inner? at h
  split at h
  · next name fields same =>
    have member := List.sizeOf_lt_of_mem (Keyed.mem_of_get? h)
    obtain rfl : type = .object fields := same
    obtain ⟨inside, _, _⟩ := other
    simp only [Prod.mk.sizeOf_spec, SchemaSlot.mk.sizeOf_spec] at member
    simp only [SchemaType.object.sizeOf_spec]
    omega
  · next items same =>
    cases h
    obtain rfl : type = .array items := same
    simp
  · exact absurd h (by simp)

/-- What holds of a field as soon as it holds of the fields one step inside it holds of all. -/
@[elab_as_elim]
theorem induction {motive : SchemaField → Prop}
    (step : ∀ slot, (∀ s x, slot.inner? s = some x → motive x) → motive slot) :
    ∀ slot, motive slot := by
  intro slot
  induction size : sizeOf slot.type using Nat.strongRecOn generalizing slot with
  | ind n ih =>
    subst size
    exact step slot fun s x inside => ih _ (sizeOf_inner? inside) x rfl

/-- The entries are sorted in every object inside the field. -/
def Ordered (slot : SchemaField) : Prop :=
  ∀ address x fields, slot.at? address = some x → x.type = .object fields → Keyed.Sorted fields

theorem Ordered.inner {step : Step} (ordered : slot.Ordered) (h : slot.inner? step = some other) :
    other.Ordered := by
  intro address x fields found same
  exact ordered (step :: address) x fields (by rw [at?_cons, h]; exact found) same

/-- What a field is by itself, without what is inside it. -/
def outline (slot : SchemaField) : SchemaSlot String :=
  ⟨slot.type.name, slot.optional, slot.sources⟩

/-- Types of the same name with the same fields inside them are the same. -/
theorem type_eq_of_inner? (ordered : slot.Ordered) (ordered' : other.Ordered)
    (name : slot.type.name = other.type.name)
    (inside : ∀ step, slot.inner? step = other.inner? step) : slot.type = other.type := by
  cases type : slot.type with
  | array items =>
    rw [type] at name
    obtain ⟨items', type'⟩ := SchemaType.name_eq_array_iff.1 name.symm
    have steps := inside .items
    rw [inner?_items_of_type type, inner?_items_of_type type'] at steps
    have sameItems : items = items' := by
      simpa using congrArg (Option.map SchemaSlot.type) steps
    rw [type', sameItems]
  | object fields =>
    rw [type] at name
    obtain ⟨fields', type'⟩ := SchemaType.name_eq_object_iff.1 name.symm
    have sorted : Keyed.Sorted fields := ordered [] slot fields rfl type
    have sorted' : Keyed.Sorted fields' := ordered' [] other fields' rfl type'
    have steps : ∀ k, Keyed.get? k fields = Keyed.get? k fields' := by
      intro k
      rw [← inner?_field_of_type type, ← inner?_field_of_type type']
      exact inside (.field k)
    rw [type', Keyed.ext_get? sorted sorted' steps]
  | _ =>
    rw [type] at name
    cases type' : other.type <;> simp_all [SchemaType.name]

/-- Fields that are described alike at every address are the same. -/
theorem ext_outline (ordered : slot.Ordered) (ordered' : other.Ordered)
    (same : ∀ address, (slot.at? address).map outline = (other.at? address).map outline) :
    slot = other := by
  induction slot using induction generalizing other with
  | step slot ih =>
    have inside : ∀ step, slot.inner? step = other.inner? step := by
      intro step
      have below : ∀ address, ((slot.inner? step).bind (at? address)).map outline =
          ((other.inner? step).bind (at? address)).map outline :=
        fun address => same (step :: address)
      cases h : slot.inner? step with
      | none =>
        cases h' : other.inner? step with
        | none => rfl
        | some y =>
          have top := below []
          simp [h, h'] at top
      | some x =>
        cases h' : other.inner? step with
        | none =>
          have top := below []
          simp [h, h'] at top
        | some y =>
          rw [h, h'] at below
          rw [ih step x h (ordered.inner h) (ordered'.inner h') below]
    have top := same []
    simp only [at?_nil, Option.map_some, outline, Option.some.injEq, SchemaSlot.mk.injEq] at top
    obtain ⟨name, optional, sources⟩ := top
    have types := type_eq_of_inner? ordered ordered' name inside
    cases slot
    cases other
    simp only [SchemaSlot.mk.injEq]
    exact ⟨types, optional, sources⟩

end SchemaSlot

end GuidedDecoding
