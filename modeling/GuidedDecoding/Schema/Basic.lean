import GuidedDecoding.Constraint.Basic
import GuidedDecoding.FieldPath
import GuidedDecoding.Keyed

/-!
# Schemas

A schema says which fields a generated object has, what types they have and which of them may be
left out. Each field knows the constraints that declared it. Fields are entries sorted by name at
every level.
-/

namespace GuidedDecoding

/-- A field of a compiled type, with the constraints that declared it. -/
structure SchemaSlot (τ : Type) where
  type : τ
  optional : Bool
  sources : NameSet
deriving DecidableEq

/-- A compiled type. -/
inductive SchemaType where
  | string
  | number
  | integer
  | boolean
  | null
  | array (items : SchemaType)
  | object (fields : List (String × SchemaSlot SchemaType))
deriving Inhabited

/-- A field of a schema. -/
abbrev SchemaField := SchemaSlot SchemaType

/-- The fields of a generated object. -/
structure Schema where
  fields : List (String × SchemaField)

namespace SchemaType

def name : SchemaType → String
  | .string => "string"
  | .number => "number"
  | .integer => "integer"
  | .boolean => "boolean"
  | .null => "null"
  | .array _ => "array"
  | .object _ => "object"

mutual

/-- A declared type; every field inside it was declared by the same constraint. -/
def ofDeclared (source : String) : FieldType → SchemaType
  | .string => .string
  | .number => .number
  | .integer => .integer
  | .boolean => .boolean
  | .null => .null
  | .array items => .array (ofDeclared source items)
  | .object fields => .object (fieldsOfDeclared source fields)

/-- The declared fields of an object type. -/
def fieldsOfDeclared (source : String) :
    List (String × Member FieldType) → List (String × SchemaSlot SchemaType)
  | [] => []
  | (name, m) :: rest =>
    (name, ⟨ofDeclared source m.type, m.optional, .singleton source⟩)
      :: fieldsOfDeclared source rest

end

mutual

/-- The constraints that declared some field inside the type. -/
def sources : SchemaType → NameSet
  | .array items => items.sources
  | .object fields => sourcesOfFields fields
  | _ => ∅

/-- The constraints that declared some of the fields, or a field inside them. -/
def sourcesOfFields : List (String × SchemaSlot SchemaType) → NameSet
  | [] => ∅
  | (_, slot) :: rest => (slot.sources.union slot.type.sources).union (sourcesOfFields rest)

end

end SchemaType

namespace SchemaSlot

/-- The field that some names lead to from a field, by way of objects only. -/
def descend : List String → SchemaField → Option SchemaField
  | [], slot => some slot
  | name :: rest, slot =>
    match slot.type with
    | .object fields => (Keyed.get? name fields).bind (descend rest)
    | _ => none

end SchemaSlot

namespace Schema

/-- The field at a dotted path. -/
def lookup (s : Schema) (path : String) : Option SchemaField :=
  match FieldPath.segments path with
  | [] => none
  | name :: rest => (Keyed.get? name s.fields).bind (SchemaSlot.descend rest)

/-- Every constraint that declared a field, at whatever depth. -/
def sources (s : Schema) : NameSet := SchemaType.sourcesOfFields s.fields

end Schema

end GuidedDecoding
