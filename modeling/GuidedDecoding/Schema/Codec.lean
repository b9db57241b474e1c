import GuidedDecoding.Constraint.Codec
import GuidedDecoding.Schema.Basic

/-!
# Schemas as JSON documents
-/

namespace GuidedDecoding

namespace SchemaType

mutual

def toJson : SchemaType → Json
  | .array items => .obj [("type", .str "array"), ("items", items.toJson)]
  | .object fields => .obj [("type", .str "object"), ("fields", .obj (fieldsToJson fields))]
  | .string => .obj [("type", .str "string")]
  | .number => .obj [("type", .str "number")]
  | .integer => .obj [("type", .str "integer")]
  | .boolean => .obj [("type", .str "boolean")]
  | .null => .obj [("type", .str "null")]

def fieldsToJson : List (String × SchemaSlot SchemaType) → List (String × Json)
  | [] => []
  | (name, slot) :: rest =>
    (name, .obj [("field_type", slot.type.toJson), ("optional", .bool slot.optional),
      ("source_ids", slot.sources.toJson)]) :: fieldsToJson rest

end

/-- A field whose type is taken by a given reader. -/
def slotOfJson? (typeOf : Json → Option SchemaType) (doc : Json) : Option SchemaField := do
  match ← doc.record? [["field_type"], ["optional"], ["source_ids"]] with
  | [type, optional, sources] =>
    return ⟨← Json.required typeOf type, ← Json.required Json.bool? optional,
      ← Json.required NameSet.ofJson? sources⟩
  | _ => none

/-- Fields whose types are taken by a given reader; of two with one name the later stays. -/
def fieldsOfJson? (typeOf : Json → Option SchemaType) (doc : Json) :
    Option (List (String × SchemaField)) :=
  (doc.entries? (slotOfJson? typeOf)).map Keyed.ofList

/-- A type that nests at most `fuel` levels deep. -/
def ofJsonWithin? : Nat → Bool → Json → Option SchemaType
  | 0, _, _ => none
  | fuel + 1, loose, doc => do
    let (tag, body) ← doc.tagged? loose "type" FieldType.tags
    match tag with
    | "array" =>
      match ← body.record? [["items"]] with
      | [items] => return .array (← Json.required (ofJsonWithin? fuel true) items)
      | _ => none
    | "object" =>
      match ← body.record? [["fields"]] with
      | [fields] =>
        return .object (← Json.required (fieldsOfJson? (ofJsonWithin? fuel true)) fields)
      | _ => none
    | "string" => body.bare?.map fun _ => .string
    | "number" => body.bare?.map fun _ => .number
    | "integer" => body.bare?.map fun _ => .integer
    | "boolean" => body.bare?.map fun _ => .boolean
    | "null" => body.bare?.map fun _ => .null
    | _ => none

def ofJson? (loose : Bool) (doc : Json) : Option SchemaType :=
  ofJsonWithin? (doc.depth + 1) loose doc

end SchemaType

namespace SchemaSlot

def toJson (slot : SchemaField) : Json :=
  .obj [("field_type", slot.type.toJson), ("optional", .bool slot.optional),
    ("source_ids", slot.sources.toJson)]

end SchemaSlot

namespace Schema

def toJson (s : Schema) : Json := .obj [("fields", .obj (SchemaType.fieldsToJson s.fields))]

def ofJson? (doc : Json) : Option Schema := do
  match ← doc.record? [["fields"]] with
  | [fields] =>
    return ⟨← Json.required (SchemaType.fieldsOfJson? (SchemaType.ofJson? false)) fields⟩
  | _ => none

end Schema

end GuidedDecoding
