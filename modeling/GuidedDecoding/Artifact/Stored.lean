import GuidedDecoding.Artifact.Basic
import GuidedDecoding.Artifact.Timestamp

/-!
# Stored artifacts
-/

namespace GuidedDecoding

namespace Artifact

/-- The names of the fields of a stored artifact. -/
def storedFields : List (List String) :=
  [["schema"], ["grammar"], ["regex_set"], ["token_mask_rules"], ["advisory"], ["notes"],
    ["source_fingerprint"], ["compiled_at"]]

/-- An artifact that was stored together with the time at which it was compiled. -/
def ofStored? (doc : Json) : Option Artifact := do
  match ← doc.record? storedFields with
  | [schema, grammar, patterns, mask, advisory, notes, source, compiled] =>
    if Timestamp.isTimestamp (← Json.required Json.string? compiled) then
      return {
        schema := ← Json.defaulted none (Json.nullable? Schema.ofJson?) schema
        grammar := ← Json.defaulted none (Json.nullable? Grammar.ofJson?) grammar
        patterns := ← Json.defaulted none (Json.nullable? PatternSet.ofJson?) patterns
        mask := ← Json.defaulted none (Json.nullable? TokenMask.ofJson?) mask
        advisory := ← Json.defaulted [] (Json.list? AdvisoryEntry.ofJson?) advisory
        notes := ← Json.defaulted [] (Json.list? CompilationNote.ofJson?) notes
        source := ← Json.required Fingerprint.ofJson? source }
    else none
  | _ => none

end Artifact

end GuidedDecoding
