import GuidedDecoding.Constraint.Codec

/-!
# Patterns on fields

A field's value has to match every pattern on the field, each as a whole. The form that is matched
is the declared pattern wrapped so that it has to span the value.
-/

namespace GuidedDecoding

/-- A pattern on one field: the form that is matched, and the form as it was declared. -/
structure NamedPattern where
  field : String
  pattern : String
  declared : String
  source : String
deriving DecidableEq

/-- The patterns on fields, in the order in which they are enforced. -/
structure PatternSet where
  patterns : List NamedPattern
deriving DecidableEq

namespace NamedPattern

/-- Wrap a pattern so that it matches whole values only. -/
def anchored (pattern : String) : String := "^(?:" ++ pattern ++ ")$"

def toJson (p : NamedPattern) : Json :=
  .obj [("name", .str p.field), ("pattern", .str p.pattern), ("source", .str p.declared),
    ("source_id", .str p.source)]

def ofJson? (doc : Json) : Option NamedPattern := do
  match ← doc.record? [["name"], ["pattern"], ["source"], ["source_id"]] with
  | [field, pattern, declared, source] =>
    return ⟨← Json.required Json.string? field, ← Json.required Json.string? pattern,
      ← Json.required Json.string? declared, ← Json.required Json.string? source⟩
  | _ => none

end NamedPattern

namespace PatternSet

/-- The patterns on a field. -/
def forField (s : PatternSet) (field : String) : List NamedPattern :=
  s.patterns.filter fun p => p.field = field

/-- The fields that have patterns. -/
def fields (s : PatternSet) : NameSet := .ofList (s.patterns.map NamedPattern.field)

def toJson (s : PatternSet) : Json :=
  .obj [("patterns", .arr (s.patterns.map NamedPattern.toJson))]

def ofJson? (doc : Json) : Option PatternSet := do
  match ← doc.record? [["patterns"]] with
  | [patterns] => return ⟨← Json.required (Json.list? NamedPattern.ofJson?) patterns⟩
  | _ => none

end PatternSet

end GuidedDecoding
