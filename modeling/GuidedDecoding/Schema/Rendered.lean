import GuidedDecoding.Json.Basic
import GuidedDecoding.Schema.Basic

/-!
# Schemas for structured output

A schema is handed to backends as a JSON Schema document. An object is closed: it has no
properties beyond those that are declared, and those that may not be left out are required.
-/

namespace GuidedDecoding

namespace SchemaType

/-- The names of the fields that may not be left out. -/
def requiredNames (fields : List (String × SchemaField)) : List String :=
  (fields.filter fun f => !f.2.optional).map Prod.fst

/-- The document of an object with these properties. -/
def closedObject (properties : List (String × Json)) (names : List String) : Json :=
  .obj [("type", .str "object"), ("properties", .obj properties), ("required", .strings names),
    ("additionalProperties", .bool false)]

mutual

/-- The document that describes values of the type. -/
def jsonSchema : SchemaType → Json
  | .array items => .obj [("type", .str "array"), ("items", items.jsonSchema)]
  | .object fields => closedObject (propertySchemas fields) (requiredNames fields)
  | .string => .obj [("type", .str "string")]
  | .number => .obj [("type", .str "number")]
  | .integer => .obj [("type", .str "integer")]
  | .boolean => .obj [("type", .str "boolean")]
  | .null => .obj [("type", .str "null")]

/-- The documents of the fields of an object. -/
def propertySchemas : List (String × SchemaSlot SchemaType) → List (String × Json)
  | [] => []
  | (name, slot) :: rest => (name, slot.type.jsonSchema) :: propertySchemas rest

end

end SchemaType

namespace Schema

/-- The document that describes the generated object. -/
def jsonSchema (s : Schema) : Json :=
  SchemaType.closedObject (SchemaType.propertySchemas s.fields) (SchemaType.requiredNames s.fields)

end Schema

end GuidedDecoding
