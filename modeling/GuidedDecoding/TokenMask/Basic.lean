import GuidedDecoding.Constraint.Codec

/-!
# Token masks

A mask is a list of rules over the symbols of the decoding vocabulary. A symbol is permitted when
every allow rule selects it and no deny rule does, so another rule never permits more.
-/

namespace GuidedDecoding

/-- One rule of a mask. -/
structure MaskRule where
  action : MaskAction
  selects : SymbolMatcher
  source : String
deriving DecidableEq

/-- The rules over the vocabulary. -/
structure TokenMask where
  rules : List MaskRule
deriving DecidableEq

namespace MaskRule

def toJson (r : MaskRule) : Json :=
  .obj [("action", r.action.toJson), ("matcher", r.selects.toJson), ("source_id", .str r.source)]

def ofJson? (doc : Json) : Option MaskRule := do
  match ← doc.record? [["action"], ["matcher"], ["source_id"]] with
  | [action, selects, source] =>
    return ⟨← Json.required (MaskAction.ofJson? false) action,
      ← Json.required SymbolMatcher.ofJson? selects, ← Json.required Json.string? source⟩
  | _ => none

end MaskRule

namespace TokenMask

def toJson (m : TokenMask) : Json := .obj [("rules", .arr (m.rules.map MaskRule.toJson))]

def ofJson? (doc : Json) : Option TokenMask := do
  match ← doc.record? [["rules"]] with
  | [rules] => return ⟨← Json.required (Json.list? MaskRule.ofJson?) rules⟩
  | _ => none

end TokenMask

end GuidedDecoding
