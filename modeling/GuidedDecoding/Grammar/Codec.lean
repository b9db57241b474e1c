import GuidedDecoding.Constraint.Codec
import GuidedDecoding.Grammar.Basic

/-!
# Grammars as JSON documents
-/

namespace GuidedDecoding

namespace GrammarRule

def toJson (r : GrammarRule) : Json :=
  .obj (("alternatives", Payload.alternativesToJson r.alternatives)
    :: Json.whenSome "field" .str r.field ++ [("source_ids", r.sources.toJson)])

def ofJson? (doc : Json) : Option GrammarRule := do
  match ← doc.record? [["alternatives"], ["field"], ["source_ids"]] with
  | [alternatives, field, sources] =>
    return ⟨← Json.required Payload.alternativesOfJson? alternatives,
      ← Json.defaulted none (Json.nullable? Json.string?) field,
      ← Json.required NameSet.ofJson? sources⟩
  | _ => none

end GrammarRule

namespace Grammar

/-- The grammar of some rules; of two with one name the later stays. -/
def ofRules (rules : List (String × GrammarRule)) : Grammar :=
  ⟨Keyed.ofList rules, Keyed.sorted_ofList rules⟩

def toJson (g : Grammar) : Json :=
  .obj [("rules", .obj (g.rules.map fun r => (r.1, r.2.toJson)))]

def ofJson? (doc : Json) : Option Grammar := do
  match ← doc.record? [["rules"]] with
  | [rules] => return ofRules (← Json.required (Json.entries? GrammarRule.ofJson?) rules)
  | _ => none

end Grammar

end GuidedDecoding
