import GuidedDecoding.Proofs.Json.Number
import GuidedDecoding.Schema.Rendered

/-!
# What a JSON Schema accepts

A JSON Schema is itself a document. `Json.Accepts` gives the keywords of rendered schemas the
meaning that they have in the standard: a schema accepts what each of its keywords accepts, a
keyword for arrays says nothing about other documents, and neither does one for objects.
-/

namespace GuidedDecoding

/-- The number that a numeral stands for. -/
def Numeral.value (n : Numeral) : ℚ := if n.negative then -n.size else n.size

namespace Json

/-- The items of an array. Other documents have none. -/
def elements : Json → List Json
  | .arr items => items
  | _ => []

/-- The fields of an object. Other documents have none. -/
def members : Json → List (String × Json)
  | .obj fields => fields
  | _ => []

/-- A document is of a type. What counts for an integer is the number, not how it is written. -/
def IsOfType (kind : String) : Json → Prop
  | .null => kind = "null"
  | .bool _ => kind = "boolean"
  | .num n => kind = "number" ∨ kind = "integer" ∧ ∃ i : Int, n.value = i
  | .str _ => kind = "string"
  | .arr _ => kind = "array"
  | .obj _ => kind = "object"
  | .unreadable => False

/-- The names that the keyword `properties` lists. -/
def declaredNames (keywords : List (String × Json)) : List String :=
  (keywords.filter fun k => k.1 == "properties").flatMap fun k => k.2.members.map Prod.fst

mutual

/-- A schema accepts a document. -/
def Accepts : Json → Json → Prop
  | .bool verdict, _ => verdict = true
  | .obj keywords, doc => KeywordsAccept (declaredNames keywords) keywords doc
  | _, _ => False

/-- Each keyword accepts a document. Keywords that are not known accept everything. -/
def KeywordsAccept (declared : List String) : List (String × Json) → Json → Prop
  | [], _ => True
  | (keyword, content) :: rest, doc =>
    (match keyword, content with
      | "type", kinds =>
        ∃ kind, (kinds = .str kind ∨ .str kind ∈ kinds.elements) ∧ IsOfType kind doc
      | "items", items => ∀ item ∈ doc.elements, items.Accepts item
      | "properties", .obj properties => PropertiesAccept properties doc
      | "required", names =>
        ∀ fields, doc = .obj fields →
          ∀ name, .str name ∈ names.elements → name ∈ fields.map Prod.fst
      | "additionalProperties", others =>
        ∀ field ∈ doc.members, field.1 ∉ declared → others.Accepts field.2
      | _, _ => True) ∧ KeywordsAccept declared rest doc

/-- The fields that have one of the names have values that its schema accepts. -/
def PropertiesAccept : List (String × Json) → Json → Prop
  | [], _ => True
  | (name, property) :: rest, doc =>
    (∀ field ∈ doc.members, field.1 = name → property.Accepts field.2) ∧
      PropertiesAccept rest doc

end

/-- A schema with nothing but a type accepts the documents of the type. -/
theorem accepts_type {kind : String} {doc : Json} :
    (obj [("type", .str kind)]).Accepts doc ↔ IsOfType kind doc := by
  simp [Accepts, KeywordsAccept, elements]

end Json

end GuidedDecoding
