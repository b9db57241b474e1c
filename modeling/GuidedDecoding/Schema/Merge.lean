import GuidedDecoding.Error.Compile
import GuidedDecoding.Schema.Basic
import GuidedDecoding.Text.Blank

/-!
# Compiling declarations of fields

Each constraint declares a field by a dotted path, and so the objects on the way to it. Declarations
of one field are merged: their types have to agree, where an integer is also a number; a field may
be left out only if every declaration allows it; and the constraints that declared it add up.
-/

namespace GuidedDecoding

namespace Schema

/-- Two types were declared for one field. -/
def mismatch (path : String) (existing declared : String) (sources others : NameSet) :
    CompileError :=
  .inconsistent (sources.union others).toList
    s!"field `{path}` declared as both {existing} and {declared}"

mutual

/-- The type that satisfies a type at a path and another one declared for the same place. -/
def mergeType (path : String) (sources others : NameSet) (mine : SchemaType) :
    (theirs : SchemaType) → Except CompileError SchemaType
  | .object incoming =>
    match mine with
    | .object fields => (mergeFields path fields incoming).map .object
    | mine => .error (mismatch path mine.name "object" sources others)
  | .array incoming =>
    match mine with
    | .array items => (mergeType (path ++ "[]") sources others items incoming).map .array
    | mine => .error (mismatch path mine.name "array" sources others)
  | .integer =>
    match mine with
    | .number => .ok .integer
    | .integer => .ok .integer
    | mine => .error (mismatch path mine.name "integer" sources others)
  | .number =>
    match mine with
    | .number => .ok .number
    | .integer => .ok .integer
    | mine => .error (mismatch path mine.name "number" sources others)
  | .string =>
    match mine with
    | .string => .ok .string
    | mine => .error (mismatch path mine.name "string" sources others)
  | .boolean =>
    match mine with
    | .boolean => .ok .boolean
    | mine => .error (mismatch path mine.name "boolean" sources others)
  | .null =>
    match mine with
    | .null => .ok .null
    | mine => .error (mismatch path mine.name "null" sources others)

/-- The fields of an object at a path together with others declared for it. A field is filed under
the last name of its path. -/
def mergeFields (path : String) (fields : List (String × SchemaSlot SchemaType)) :
    (incoming : List (String × SchemaSlot SchemaType)) →
      Except CompileError (List (String × SchemaSlot SchemaType))
  | [] => .ok fields
  | (name, ⟨type, optional, sources⟩) :: rest => do
    let inner := path ++ "." ++ name
    let place := FieldPath.last inner
    match Keyed.get? place fields with
    | none => mergeFields path (Keyed.insert place ⟨type, optional, sources⟩ fields) rest
    | some slot =>
      let merged ← mergeType inner slot.sources sources slot.type type
      mergeFields path
        (Keyed.insert place
          ⟨merged, slot.optional && optional, slot.sources.union sources⟩ fields) rest

end

/-- The fields together with one more. -/
def addField (fields : List (String × SchemaField)) (path : String) (slot : SchemaField) :
    Except CompileError (List (String × SchemaField)) :=
  let place := FieldPath.last path
  match Keyed.get? place fields with
  | none => .ok (Keyed.insert place slot fields)
  | some mine => do
    let merged ← mergeType path mine.sources slot.sources mine.type slot.type
    return Keyed.insert place
      ⟨merged, mine.optional && slot.optional, mine.sources.union slot.sources⟩ fields

/-- A field inside the objects that a path goes through, all of them as optional as the field. -/
def nested (leaf : SchemaField) (path : List String) : SchemaField :=
  path.foldr (fun name slot => { leaf with type := .object [(name, slot)] }) leaf

/-- The outermost name that a constraint declares, and the field there. -/
def declared (c : Constraint) : Except CompileError (String × SchemaField) :=
  match c.payload with
  | .field path type optional =>
    match FieldPath.segments path with
    | [] => .error (.invalidConstraint c.id s!"malformed field path `{path}`")
    | name :: inner =>
      if (name :: inner).any Text.allBlank then
        .error (.invalidConstraint c.id s!"malformed field path `{path}`")
      else
        .ok (name, nested ⟨.ofDeclared c.id type, optional, .singleton c.id⟩ inner)
  | _ => .error (.invalidConstraint c.id "schema constraint without a field payload")

/-- Add what a constraint declares. -/
def declare (fields : List (String × SchemaField)) (c : Constraint) :
    Except CompileError (List (String × SchemaField)) := do
  let (name, slot) ← declared c
  addField fields name slot

/-- The schema of constraints that declare fields. -/
def ofDeclarations (constraints : List Constraint) : Except CompileError Schema :=
  (constraints.foldlM declare []).map Schema.mk

/-- The schema of the constraints that are enforced by one, if there are any. -/
def ofConstraints (constraints : List Constraint) : Except CompileError (Option Schema) :=
  match constraints.filter fun c => c.enforcement = .schema with
  | [] => .ok none
  | targeted => (ofDeclarations targeted).map some

end Schema

end GuidedDecoding
