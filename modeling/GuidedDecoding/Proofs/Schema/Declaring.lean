import GuidedDecoding.Proofs.Schema.Order

/-!
# Where a constraint declares something

A constraint declares the objects that its path goes through, what its path ends at, and everything
inside the type of that. The object that it adds to a schema has just this at the same addresses.
-/

namespace GuidedDecoding

open SchemaSlot (at?_cons at?_append outline)

/-- What a declaration has at an address inside it. The items of an array may be left out if the
array may. -/
inductive Member.Inside : Member FieldType → List Step → Member FieldType → Prop
  | here (m : Member FieldType) : Inside m [] m
  | field {fields : List (String × Member FieldType)} {outer : Bool} {name : String}
      {m inner : Member FieldType} {rest : List Step} (member : (name, m) ∈ fields)
      (inside : Inside m rest inner) : Inside ⟨.object fields, outer⟩ (.field name :: rest) inner
  | items {items : FieldType} {optional : Bool} {inner : Member FieldType} {rest : List Step}
      (inside : Inside ⟨items, optional⟩ rest inner) :
      Inside ⟨.array items, optional⟩ (.items :: rest) inner

namespace Constraint

/-- A constraint declares a type of some kind at an address, and whether it may be left out there:
an object for each front part of its path, which may be left out as the whole may, and all that is
inside its type. -/
inductive DeclaresAt (c : Constraint) : List Step → String → Bool → Prop
  | parent {path : String} {type : FieldType} {optional : Bool} {before after : List String}
      (payload : c.payload = .field path type optional)
      (way : FieldPath.segments path = before ++ after) (started : before ≠ [])
      (unfinished : after ≠ []) : DeclaresAt c (before.map .field) "object" optional
  | inside {path : String} {type : FieldType} {optional : Bool} {rest : List Step}
      {m : Member FieldType} (payload : c.payload = .field path type optional)
      (there : Member.Inside ⟨type, optional⟩ rest m) :
      DeclaresAt c ((FieldPath.segments path).map .field ++ rest) m.type.name m.optional

/-- A constraint declares something at an address. -/
def Declares (c : Constraint) (address : List Step) : Prop :=
  ∃ kind optional, c.DeclaresAt address kind optional

/-- A constraint declares a field, by a path without blank names. -/
def DeclaresField (c : Constraint) : Prop :=
  ∃ path type optional, c.payload = .field path type optional ∧
    ∀ name ∈ FieldPath.segments path, Text.allBlank name = false

end Constraint

theorem SchemaType.name_ofDeclared (source : String) (t : FieldType) :
    (ofDeclared source t).name = t.name := by
  cases t <;> rfl

namespace SchemaSlot

/-- The field that a constraint adds for a declaration. -/
def ofMember (source : String) (m : Member FieldType) : SchemaField :=
  ⟨.ofDeclared source m.type, m.optional, .singleton source⟩

variable {source : String} {m : Member FieldType} {x : SchemaField} {address : List Step}

theorem outline_ofMember : (ofMember source m).outline =
    ⟨m.type.name, m.optional, .singleton source⟩ := by
  rw [outline, ofMember, SchemaType.name_ofDeclared]

theorem at?_ofMember_iff (ordered : m.type.EveryObject (List.Pairwise (· < ·))) :
    (ofMember source m).at? address = some x ↔
      ∃ inner, m.Inside address inner ∧ ofMember source inner = x := by
  constructor
  · intro there
    induction address generalizing m with
    | nil =>
      cases there
      exact ⟨m, .here m, rfl⟩
    | cons step rest ih =>
      rw [at?_cons, Option.bind_eq_some_iff] at there
      obtain ⟨y, next, there⟩ := there
      obtain ⟨type, optional⟩ := m
      cases type with
      | object fields =>
        cases step with
        | field name =>
          have found : Keyed.get? name (SchemaType.fieldsOfDeclared source fields) = some y := next
          rw [SchemaType.get?_fieldsOfDeclared, Option.map_eq_some_iff] at found
          obtain ⟨m, present, rfl⟩ := found
          have member := Keyed.mem_of_get? present
          obtain ⟨inner, inside, same⟩ := ih (everyMember_iff.1 ordered.2 _ member) there
          exact ⟨inner, .field member inside, same⟩
        | items => cases next
      | array items =>
        cases step with
        | field name => cases next
        | items =>
          cases next
          obtain ⟨inner, inside, same⟩ := ih (m := ⟨items, optional⟩) ordered there
          exact ⟨inner, .items inside, same⟩
      | _ => cases step <;> cases next
  · rintro ⟨inner, inside, rfl⟩
    induction inside with
    | here => rfl
    | @field fields outer name m inner rest member inside ih =>
      have found : (ofMember source ⟨.object fields, outer⟩).inner? (.field name) =
          some (ofMember source m) := by
        have present := Keyed.get?_of_mem ordered.1 member
        exact SchemaType.get?_fieldsOfDeclared.trans (by rw [present]; rfl)
      rw [at?_cons, found]
      exact ih (everyMember_iff.1 ordered.2 _ member)
    | items inside ih => exact ih ordered

end SchemaSlot

namespace Schema

variable {leaf x : SchemaField} {c : Constraint} {d : String × SchemaField} {address : List Step}

theorem inner?_nested_cons {name : String} {path : List String} {step : Step} :
    (nested leaf (name :: path)).inner? step = some x ↔
      step = .field name ∧ nested leaf path = x := by
  rw [← inner?_whole_singleton]
  cases step <;> rfl

theorem at?_nested_append (leaf : SchemaField) (before after : List String) :
    (nested leaf (before ++ after)).at? (before.map .field) = some (nested leaf after) := by
  induction before with
  | nil => rfl
  | cons name before ih =>
    rw [List.cons_append, List.map_cons, at?_cons, inner?_nested_cons.2 ⟨rfl, rfl⟩]
    exact ih

/-- An address in a nested field ends on the way to the leaf, or inside it. -/
theorem at?_nested_iff {path : List String} :
    (nested leaf path).at? address = some x ↔
      (∃ before after, path = before ++ after ∧ after ≠ [] ∧ address = before.map .field ∧
        nested leaf after = x) ∨
      ∃ rest, address = path.map .field ++ rest ∧ leaf.at? rest = some x := by
  constructor
  · intro there
    induction path generalizing address with
    | nil => exact .inr ⟨address, rfl, there⟩
    | cons name path ih =>
      cases address with
      | nil =>
        cases there
        exact .inl ⟨[], name :: path, rfl, by simp, rfl, rfl⟩
      | cons step rest =>
        rw [at?_cons, Option.bind_eq_some_iff] at there
        obtain ⟨y, next, there⟩ := there
        obtain ⟨rfl, rfl⟩ := inner?_nested_cons.1 next
        rcases ih there with ⟨before, after, rfl, unfinished, rfl, same⟩ | ⟨rest, rfl, inLeaf⟩
        · exact .inl ⟨name :: before, after, rfl, unfinished, rfl, same⟩
        · exact .inr ⟨rest, rfl, inLeaf⟩
  · rintro (⟨before, after, rfl, -, rfl, rfl⟩ | ⟨rest, rfl, inLeaf⟩)
    · exact at?_nested_append leaf before after
    · have atLeaf := at?_nested_append leaf path []
      rw [List.append_nil] at atLeaf
      rw [at?_append, atLeaf]
      exact inLeaf

theorem outline_nested {path : List String} (ne : path ≠ []) :
    (nested leaf path).outline = ⟨"object", leaf.optional, leaf.sources⟩ := by
  obtain ⟨name, rest, rfl⟩ := List.exists_cons_of_ne_nil ne
  rfl

/-- The object with one field only has inside it what the nested field has. -/
theorem at?_alone_nested {name : String} {path : List String} (below : address ≠ []) :
    (alone (name, nested leaf path)).at? address = (nested leaf (name :: path)).at? address := by
  obtain ⟨step, rest, rfl⟩ := List.exists_cons_of_ne_nil below
  cases step <;> rfl

/-- What a constraint adds has, at each address, what the constraint declares there. -/
theorem outline_alone_iff {o : SchemaSlot String} (ordered : c.TypeOrdered)
    (h : declared c = .ok d) (below : address ≠ []) :
    ((alone d).at? address).map outline = some o ↔
      c.DeclaresAt address o.type o.optional ∧ o.sources = .singleton c.id := by
  obtain ⟨path, type, optional, first, inner, payload, way, -, rfl⟩ := declared_eq_ok_iff.1 h
  have leafOrdered : type.EveryObject (List.Pairwise (· < ·)) := ordered path type optional payload
  rw [at?_alone_nested below, ← way, Option.map_eq_some_iff]
  constructor
  · rintro ⟨x, there, rfl⟩
    rcases at?_nested_iff.1 there with ⟨before, after, pieces, unfinished, rfl, rfl⟩ |
      ⟨rest, rfl, inLeaf⟩
    · have started : before ≠ [] := by simpa using below
      rw [outline_nested unfinished]
      exact ⟨.parent payload pieces started unfinished, rfl⟩
    · obtain ⟨m, inside, rfl⟩ :=
        (SchemaSlot.at?_ofMember_iff (m := ⟨type, optional⟩) leafOrdered).1 inLeaf
      rw [SchemaSlot.outline_ofMember]
      exact ⟨.inside payload inside, rfl⟩
  · obtain ⟨kind, outer, sources⟩ := o
    rintro ⟨declares, rfl⟩
    cases declares with
    | parent payload' pieces started unfinished =>
      cases payload.symm.trans payload'
      exact ⟨_, at?_nested_iff.2 (.inl ⟨_, _, pieces, unfinished, rfl, rfl⟩),
        outline_nested unfinished⟩
    | inside payload' inside =>
      cases payload.symm.trans payload'
      exact ⟨_, at?_nested_iff.2
        (.inr ⟨_, rfl, (SchemaSlot.at?_ofMember_iff leafOrdered).2 ⟨_, inside, rfl⟩⟩),
        SchemaSlot.outline_ofMember⟩

theorem exists_declared_iff : (∃ d, declared c = .ok d) ↔ c.DeclaresField := by
  constructor
  · rintro ⟨d, h⟩
    obtain ⟨path, type, optional, first, inner, payload, way, written, -⟩ := declared_eq_ok_iff.1 h
    exact ⟨path, type, optional, payload, way ▸ written⟩
  · rintro ⟨path, type, optional, payload, written⟩
    cases way : FieldPath.segments path with
    | nil => exact absurd (List.map_eq_nil_iff.1 way) (FieldPath.pieces_ne_nil _)
    | cons first inner =>
      rw [way] at written
      exact ⟨_,
        declared_eq_ok_iff.2 ⟨path, type, optional, first, inner, payload, way, written, rfl⟩⟩

end Schema

end GuidedDecoding
