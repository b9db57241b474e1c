import GuidedDecoding.Constraint.Basic
import GuidedDecoding.Json.Decode
import GuidedDecoding.Json.Reader
import GuidedDecoding.Keyed

/-!
# Constraints as JSON documents

Every part of a constraint has a written form and a reader that takes that form back. Readers
accept more than is written: fields in any order or as an array, names that were used before,
and what `GuidedDecoding.Json.record?` and `GuidedDecoding.Json.tagged?` allow.
-/

namespace GuidedDecoding

/-- The member of a list that a name belongs to. -/
def findNamed? {α : Type} (all : List α) (name : α → String) (s : String) : Option α :=
  all.find? fun a => name a == s

namespace NameSet

def toJson (s : NameSet) : Json := .strings s.toList

def ofJson? (doc : Json) : Option NameSet := (doc.list? Json.string?).map ofList

end NameSet

namespace Kind

def toJson (k : Kind) : Json := .str k.name

def ofJson? (loose : Bool) : Json → Option Kind := Json.choice? loose (findNamed? all name)

end Kind

namespace Priority

def toJson (p : Priority) : Json := .str p.name

def ofJson? (loose : Bool) : Json → Option Priority := Json.choice? loose (findNamed? all name)

end Priority

namespace Severity

def toJson (s : Severity) : Json := .str s.name

def ofJson? (loose : Bool) : Json → Option Severity := Json.choice? loose (findNamed? all name)

end Severity

namespace Enforcement

def toJson (e : Enforcement) : Json := .str e.name

/-- The enforcement of a name; advisory constraints have a second one. -/
def ofName? (s : String) : Option Enforcement :=
  if s == "advisory_only" then some .advisory else findNamed? all name s

def ofJson? (loose : Bool) : Json → Option Enforcement := Json.choice? loose ofName?

end Enforcement

namespace ProvenanceSource

def toJson (s : ProvenanceSource) : Json := .str s.name

def ofJson? (loose : Bool) : Json → Option ProvenanceSource :=
  Json.choice? loose (findNamed? all name)

end ProvenanceSource

/-- A field that is written only where there is something to write. -/
def Json.whenSome {α : Type} (name : String) (toJson : α → Json) :
    Option α → List (String × Json)
  | some a => [(name, toJson a)]
  | none => []

namespace Provenance

def toJson (p : Provenance) : Json :=
  .obj (("source", p.source.toJson) :: Json.whenSome "origin" .str p.origin)

def ofJson? (doc : Json) : Option Provenance := do
  match ← doc.record? [["source"], ["origin"]] with
  | [source, origin] =>
    return ⟨← Json.required (ProvenanceSource.ofJson? false) source,
      ← Json.defaulted none (Json.nullable? Json.string?) origin⟩
  | _ => none

end Provenance

namespace FieldType

mutual

def toJson : FieldType → Json
  | .array items => .obj [("type", .str "array"), ("items", items.toJson)]
  | .object fields => .obj [("type", .str "object"), ("fields", .obj (fieldsToJson fields))]
  | .string => .obj [("type", .str "string")]
  | .number => .obj [("type", .str "number")]
  | .integer => .obj [("type", .str "integer")]
  | .boolean => .obj [("type", .str "boolean")]
  | .null => .obj [("type", .str "null")]

def fieldsToJson : List (String × Member FieldType) → List (String × Json)
  | [] => []
  | (name, m) :: rest =>
    (name, .obj [("field_type", m.type.toJson), ("optional", .bool m.optional)])
      :: fieldsToJson rest

end

/-- The tags of field types, by position. -/
def tags : List String := ["string", "number", "integer", "boolean", "null", "array", "object"]

/-- A type that nests at most `fuel` levels deep. -/
def ofJsonWithin? : Nat → Bool → Json → Option FieldType
  | 0, _, _ => none
  | fuel + 1, loose, doc => do
    let (tag, body) ← doc.tagged? loose "type" tags
    match tag with
    | "array" =>
      match ← body.record? [["items"]] with
      | [items] => return .array (← Json.required (ofJsonWithin? fuel true) items)
      | _ => none
    | "object" =>
      match ← body.record? [["fields"]] with
      | [fields] =>
        let entries ← Json.defaulted [] (Json.entries? fun doc => do
          match ← doc.record? [["field_type"], ["optional"]] with
          | [type, optional] =>
            return ⟨← Json.required (ofJsonWithin? fuel true) type,
              ← Json.defaulted false Json.bool? optional⟩
          | _ => none) fields
        return .object (Keyed.ofList entries)
      | _ => none
    | "string" => body.bare?.map fun _ => .string
    | "number" => body.bare?.map fun _ => .number
    | "integer" => body.bare?.map fun _ => .integer
    | "boolean" => body.bare?.map fun _ => .boolean
    | "null" => body.bare?.map fun _ => .null
    | _ => none

def ofJson? (loose : Bool) (doc : Json) : Option FieldType :=
  ofJsonWithin? (doc.depth + 1) loose doc

end FieldType

namespace Symbol

def toJson : Symbol → Json
  | .terminal text => .obj [("terminal", .str text)]
  | .rule name => .obj [("rule", .str name)]

def ofJson? : Json → Option Symbol
  | .obj [("terminal", .str text)] => some (.terminal text)
  | .obj [("rule", .str name)] => some (.rule name)
  | _ => none

end Symbol

namespace MaskAction

def toJson (a : MaskAction) : Json := .str a.name

def ofJson? (loose : Bool) : Json → Option MaskAction := Json.choice? loose (findNamed? all name)

end MaskAction

namespace SymbolMatcher

def toJson : SymbolMatcher → Json
  | .literals members => .obj [("literals", members.toJson)]
  | .startingWith text => .obj [("prefix", .str text)]
  | .pattern source => .obj [("pattern", .str source)]

def ofJson? : Json → Option SymbolMatcher
  | .obj [("literals", members)] => (NameSet.ofJson? members).map .literals
  | .obj [("prefix", .str text)] => some (.startingWith text)
  | .obj [("pattern", .str source)] => some (.pattern source)
  | _ => none

end SymbolMatcher

namespace Payload

def alternativesToJson (alternatives : List (List Symbol)) : Json :=
  .arr (alternatives.map fun symbols => .arr (symbols.map Symbol.toJson))

def alternativesOfJson? : Json → Option (List (List Symbol)) :=
  Json.list? (Json.list? Symbol.ofJson?)

def toJson : Payload → Json
  | .field path type optional =>
    .obj [("type", .str "field"), ("field", .str path), ("field_type", type.toJson),
      ("optional", .bool optional)]
  | .production rule alternatives target =>
    .obj ([("type", .str "production"), ("rule", .str rule),
      ("alternatives", alternativesToJson alternatives)] ++ Json.whenSome "field" .str target)
  | .regex target pattern =>
    .obj [("type", .str "regex"), ("field", .str target), ("pattern", .str pattern)]
  | .tokenRule action selects =>
    .obj [("type", .str "token_rule"), ("action", action.toJson), ("matcher", selects.toJson)]
  | .text description => .obj [("type", .str "text"), ("description", .str description)]

/-- The tags of payloads, by position. -/
def tags : List String := ["field", "production", "regex", "token_rule", "text"]

/-- A payload; unless it stands for itself it is part of a looser form. -/
def ofJson? (loose : Bool) (doc : Json) : Option Payload := do
  let (tag, body) ← doc.tagged? loose "type" tags
  match tag with
  | "field" =>
    match ← body.record? [["field"], ["field_type"], ["optional"]] with
    | [path, type, optional] =>
      return .field (← Json.required Json.string? path)
        (← Json.required (FieldType.ofJson? true) type)
        (← Json.defaulted false Json.bool? optional)
    | _ => none
  | "production" =>
    match ← body.record? [["rule"], ["alternatives"], ["field"]] with
    | [rule, alternatives, target] =>
      return .production (← Json.required Json.string? rule)
        (← Json.required alternativesOfJson? alternatives)
        (← Json.defaulted none (Json.nullable? Json.string?) target)
    | _ => none
  | "regex" =>
    match ← body.record? [["field"], ["pattern"]] with
    | [target, pattern] =>
      return .regex (← Json.required Json.string? target) (← Json.required Json.string? pattern)
    | _ => none
  | "token_rule" =>
    match ← body.record? [["action"], ["matcher"]] with
    | [action, selects] =>
      return .tokenRule (← Json.required (MaskAction.ofJson? true) action)
        (← Json.required SymbolMatcher.ofJson? selects)
    | _ => none
  | "text" =>
    match ← body.record? [["description"]] with
    | [description] => return .text (← Json.required Json.string? description)
    | _ => none
  | _ => none

end Payload

namespace Constraint

/-- A set that is written only when it has members. -/
def namesField (name : String) (s : NameSet) : List (String × Json) :=
  if s.isEmpty then [] else [(name, s.toJson)]

def toJson (c : Constraint) : Json :=
  .obj ([("id", .str c.id), ("kind", c.kind.toJson), ("priority", c.priority.toJson),
    ("severity", c.severity.toJson), ("enforcement", c.enforcement.toJson),
    ("pattern_or_spec", c.payload.toJson), ("confidence", .ofDouble c.confidence),
    ("provenance", c.provenance.toJson)]
    ++ namesField "depends_on" c.dependsOn ++ namesField "conflicts_with" c.conflictsWith)

/-- The names of the fields; the payload has a shorter one beside its own. -/
def fieldNames : List (List String) :=
  [["id"], ["kind"], ["priority"], ["severity"], ["enforcement"], ["pattern_or_spec", "spec"],
    ["confidence"], ["provenance"], ["depends_on"], ["conflicts_with"]]

def ofJson? (doc : Json) : Option Constraint := do
  match ← doc.record? fieldNames with
  | [id, kind, priority, severity, enforcement, payload, confidence, provenance, dependsOn,
      conflictsWith] =>
    return {
      id := ← Json.required Json.string? id
      kind := ← Json.required (Kind.ofJson? false) kind
      priority := ← Json.required (Priority.ofJson? false) priority
      severity := ← Json.defaulted .error (Severity.ofJson? false) severity
      enforcement := ← Json.required (Enforcement.ofJson? false) enforcement
      payload := ← Json.required (Payload.ofJson? false) payload
      confidence := ← Json.defaulted 1.0 Json.double? confidence
      provenance := ← Json.defaulted {} Provenance.ofJson? provenance
      dependsOn := ← Json.defaulted ∅ NameSet.ofJson? dependsOn
      conflictsWith := ← Json.defaulted ∅ NameSet.ofJson? conflictsWith }
  | _ => none

/-- The written form of a constraint. -/
def text (c : Constraint) : String := c.toJson.render

/-- The constraint that a text holds. -/
def parse (text : String) : Option Constraint := (Json.parse text).bind ofJson?

end Constraint

end GuidedDecoding
