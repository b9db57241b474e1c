import GuidedDecoding.Proofs.Schema.Validation

/-!
# Rendering keeps the meaning of a schema

A document conforms to a type if it is built as the type says (`SchemaType.Conforms`). The JSON
Schema that a type is rendered to accepts exactly the documents that conform to it, at every level
of objects and arrays, and so does the document that a schema is handed to backends as.
-/

namespace GuidedDecoding

/-- A document conforms to a type. In an object every field that may not be left out is present, and
every field that is present is declared and has a value that conforms to what is declared for it. -/
inductive SchemaType.Conforms : SchemaType → Json → Prop where
  | string (s : String) : Conforms .string (.str s)
  | number (n : Numeral) : Conforms .number (.num n)
  | integer {n : Numeral} (i : Int) (whole : n.value = i) : Conforms .integer (.num n)
  | boolean (b : Bool) : Conforms .boolean (.bool b)
  | null : Conforms .null .null
  | array {items : SchemaType} {l : List Json} (each : ∀ item ∈ l, Conforms items item) :
    Conforms (.array items) (.arr l)
  | object {fields : List (String × SchemaField)} {members : List (String × Json)}
    (present : ∀ f ∈ fields, f.2.optional = false → f.1 ∈ members.map Prod.fst)
    (declared : ∀ m ∈ members, m.1 ∈ fields.map Prod.fst)
    (each : ∀ f ∈ fields, ∀ m ∈ members, m.1 = f.1 → Conforms f.2.type m.2) :
    Conforms (.object fields) (.obj members)

namespace Json

variable {doc items : Json} {properties : List (String × Json)} {names : List String}

theorem isOfType_array_iff : IsOfType "array" doc ↔ ∃ l, doc = .arr l := by
  cases doc <;> simp [IsOfType]

theorem isOfType_object_iff : IsOfType "object" doc ↔ ∃ members, doc = .obj members := by
  cases doc <;> simp [IsOfType]

theorem propertiesAccept_iff : PropertiesAccept properties doc ↔
    ∀ p ∈ properties, ∀ m ∈ doc.members, m.1 = p.1 → p.2.Accepts m.2 := by
  induction properties with
  | nil => simp [PropertiesAccept]
  | cons p rest ih => rw [PropertiesAccept, ih, List.forall_mem_cons]

/-- The schema of an array type accepts arrays all items of which its items' schema accepts. -/
theorem accepts_array_iff : (obj [("type", .str "array"), ("items", items)]).Accepts doc ↔
    ∃ l, doc = .arr l ∧ ∀ item ∈ l, items.Accepts item := by
  have kind : (∃ kind, (Json.str "array" = .str kind ∨ .str kind ∈ (Json.str "array").elements) ∧
      IsOfType kind doc) ↔ ∃ l, doc = .arr l := by
    simp [elements, isOfType_array_iff]
  simp only [Accepts, KeywordsAccept, kind, and_true]
  constructor
  · rintro ⟨⟨l, rfl⟩, each⟩
    exact ⟨l, rfl, each⟩
  · rintro ⟨l, rfl, each⟩
    exact ⟨⟨l, rfl⟩, each⟩

/-- The schema of a closed object accepts objects with the required properties and none but those
that are listed, each with a value that its own schema accepts. -/
theorem accepts_closedObject_iff : (SchemaType.closedObject properties names).Accepts doc ↔
    ∃ members, doc = .obj members ∧ (∀ name ∈ names, name ∈ members.map Prod.fst) ∧
      (∀ m ∈ members, m.1 ∈ properties.map Prod.fst) ∧
      ∀ p ∈ properties, ∀ m ∈ members, m.1 = p.1 → p.2.Accepts m.2 := by
  have kind : (∃ kind, (Json.str "object" = .str kind ∨ .str kind ∈ (Json.str "object").elements) ∧
      IsOfType kind doc) ↔ ∃ members, doc = .obj members := by
    simp [elements, isOfType_object_iff]
  have listed : declaredNames [("type", .str "object"), ("properties", .obj properties),
      ("required", .strings names), ("additionalProperties", .bool false)] =
      properties.map Prod.fst := by
    simp [declaredNames, members]
  have required (name : String) : Json.str name ∈ (strings names).elements ↔ name ∈ names := by
    simp [strings, elements]
  simp only [SchemaType.closedObject, Accepts, KeywordsAccept, kind, listed, required,
    propertiesAccept_iff, Bool.false_eq_true, imp_false, not_not, and_true]
  constructor
  · rintro ⟨⟨members, rfl⟩, each, present, declared⟩
    exact ⟨members, rfl, present members rfl, declared, each⟩
  · rintro ⟨members, rfl, present, declared, each⟩
    refine ⟨⟨members, rfl⟩, each, ?_, declared⟩
    rintro _ ⟨⟩
    exact present

end Json

namespace SchemaType

variable {fields : List (String × SchemaField)} {doc : Json}

theorem propertySchemas_eq :
    propertySchemas fields = fields.map fun f => (f.1, f.2.type.jsonSchema) := by
  induction fields with
  | nil => rfl
  | cons f rest ih => rw [propertySchemas, ih, List.map_cons]

/-- The JSON Schema of an object type, given what those of its fields accept. -/
theorem accepts_object_iff
    (ih : ∀ f ∈ fields, ∀ doc, f.2.type.jsonSchema.Accepts doc ↔ f.2.type.Conforms doc) :
    (closedObject (propertySchemas fields) (requiredNames fields)).Accepts doc ↔
      (object fields).Conforms doc := by
  have names : (propertySchemas fields).map Prod.fst = fields.map Prod.fst := by
    simp [propertySchemas_eq, Function.comp_def]
  have required (p : String → Prop) :
      (∀ name ∈ requiredNames fields, p name) ↔ ∀ f ∈ fields, f.2.optional = false → p f.1 := by
    simp only [requiredNames, List.forall_mem_map, List.mem_filter, Bool.not_eq_true', and_imp]
  have inside (members : List (String × Json)) :
      (∀ q ∈ propertySchemas fields, ∀ m ∈ members, m.1 = q.1 → q.2.Accepts m.2) ↔
        ∀ f ∈ fields, ∀ m ∈ members, m.1 = f.1 → f.2.type.Conforms m.2 := by
    rw [propertySchemas_eq, List.forall_mem_map]
    exact forall₂_congr fun f member =>
      forall₂_congr fun m _ => imp_congr_right fun _ => ih f member m.2
  rw [Json.accepts_closedObject_iff]
  simp only [names, required, inside]
  constructor
  · rintro ⟨members, rfl, present, declared, each⟩
    exact .object present declared each
  · intro conforms
    cases conforms with
    | object present declared each => exact ⟨_, rfl, present, declared, each⟩

/-- A type without parts is told by its name. -/
theorem isOfType_name_iff (t : SchemaType) (noArray : ∀ items, t ≠ .array items)
    (noObject : ∀ fields, t ≠ .object fields) : Json.IsOfType t.name doc ↔ t.Conforms doc := by
  constructor
  · intro ofType
    cases t with
    | array items => exact absurd rfl (noArray items)
    | object fields => exact absurd rfl (noObject fields)
    | string => cases doc <;> simp [Json.IsOfType, name] at ofType; exact .string _
    | number => cases doc <;> simp [Json.IsOfType, name] at ofType; exact .number _
    | integer =>
      cases doc <;> simp [Json.IsOfType, name] at ofType
      obtain ⟨i, whole⟩ := ofType
      exact .integer i whole
    | boolean => cases doc <;> simp [Json.IsOfType, name] at ofType; exact .boolean _
    | null => cases doc <;> simp [Json.IsOfType, name] at ofType; exact .null
  · intro conforms
    cases conforms with
    | array => exact absurd rfl (noArray _)
    | object => exact absurd rfl (noObject _)
    | integer i whole => exact .inr ⟨rfl, i, whole⟩
    | number => exact .inl rfl
    | string | boolean | null => rfl

mutual

/-- The JSON Schema of a type accepts the documents that conform to it. -/
theorem accepts_jsonSchema_iff :
    ∀ (t : SchemaType) (doc : Json), t.jsonSchema.Accepts doc ↔ t.Conforms doc
  | .array items, doc => by
    rw [jsonSchema, Json.accepts_array_iff]
    constructor
    · rintro ⟨l, rfl, each⟩
      exact .array fun item member => (accepts_jsonSchema_iff items item).1 (each item member)
    · intro conforms
      cases conforms with
      | array each =>
        exact ⟨_, rfl, fun item member => (accepts_jsonSchema_iff items item).2 (each item member)⟩
  | .object fields, doc => accepts_object_iff (forall_accepts_jsonSchema_iff fields)
  | .string, _ => Json.accepts_type.trans (isOfType_name_iff .string nofun nofun)
  | .number, _ => Json.accepts_type.trans (isOfType_name_iff .number nofun nofun)
  | .integer, _ => Json.accepts_type.trans (isOfType_name_iff .integer nofun nofun)
  | .boolean, _ => Json.accepts_type.trans (isOfType_name_iff .boolean nofun nofun)
  | .null, _ => Json.accepts_type.trans (isOfType_name_iff .null nofun nofun)

theorem forall_accepts_jsonSchema_iff : ∀ (fields : List (String × SchemaSlot SchemaType)),
    ∀ f ∈ fields, ∀ doc, f.2.type.jsonSchema.Accepts doc ↔ f.2.type.Conforms doc
  | [], _, member => absurd member List.not_mem_nil
  | (_, slot) :: rest, f, member => by
    obtain rfl | later := List.mem_cons.1 member
    · exact accepts_jsonSchema_iff slot.type
    · exact forall_accepts_jsonSchema_iff rest f later

end

end SchemaType

namespace Schema

/-- The document that a schema is handed to backends as accepts exactly the objects in which every
field that may not be left out is present, no field is present that is not declared, and every
field that is present has a value that conforms to its type. -/
theorem accepts_jsonSchema_iff_conforms (s : Schema) (doc : Json) : s.jsonSchema.Accepts doc ↔
    ∃ members, doc = .obj members ∧
      (∀ name slot, (name, slot) ∈ s.fields → slot.optional = false →
        name ∈ members.map Prod.fst) ∧
      (∀ name value, (name, value) ∈ members → name ∈ Keyed.names s.fields) ∧
      ∀ name value slot, (name, value) ∈ members → (name, slot) ∈ s.fields →
        slot.type.Conforms value := by
  refine (SchemaType.accepts_jsonSchema_iff (.object s.fields) doc).trans ⟨fun conforms => ?_, ?_⟩
  · cases conforms with
    | object present declared each =>
      exact ⟨_, rfl, fun name slot => present (name, slot),
        fun name value => declared (name, value),
        fun name value slot member filed => each (name, slot) filed (name, value) member rfl⟩
  · rintro ⟨members, rfl, present, declared, each⟩
    refine .object (fun f filed => present f.1 f.2 filed)
      (fun m member => declared m.1 m.2 member) ?_
    rintro ⟨_, slot⟩ filed ⟨name, value⟩ member rfl
    exact each name value slot member filed

end Schema

end GuidedDecoding
