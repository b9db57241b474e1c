import GuidedDecoding.Constraint.Codec

/-!
# Requests to a backend and its replies
-/

namespace GuidedDecoding

/-- One more than the largest number that 32 bits hold. -/
def limit32 : Nat := UInt32.size

/-- One more than the largest number that 64 bits hold. -/
def limit64 : Nat := UInt64.size

/-- How a backend is to sample its text. -/
structure GenerationParams where
  maxTokens : Nat := 1024
  temperature : Float32 := 0.0
  topP : Float32 := 1.0
  stop : List String := []
  seed : Option Nat := none

/-- What a backend reports about a reply. -/
structure ResponseMetadata where
  tokenCount : Option Nat := none
  latency : Option Nat := none
  relaxed : List String := []
deriving DecidableEq, Repr

/-- The reply of a backend. -/
structure BackendResponse where
  text : String
  metadata : ResponseMetadata := {}
deriving DecidableEq, Repr

namespace GenerationParams

def toJson (p : GenerationParams) : Json :=
  .obj ([("max_tokens", .nat p.maxTokens), ("temperature", .ofSingle p.temperature),
    ("top_p", .ofSingle p.topP)]
    ++ (if p.stop.isEmpty then [] else [("stop", .strings p.stop)])
    ++ Json.whenSome "seed" .nat p.seed)

def ofJson? (doc : Json) : Option GenerationParams := do
  match ← doc.record? [["max_tokens"], ["temperature"], ["top_p"], ["stop"], ["seed"]] with
  | [maxTokens, temperature, topP, stop, seed] =>
    return {
      maxTokens := ← Json.required (Json.natBelow? limit32) maxTokens
      temperature := ← Json.required Json.single? temperature
      topP := ← Json.required Json.single? topP
      stop := ← Json.defaulted [] (Json.list? Json.string?) stop
      seed := ← Json.defaulted none (Json.nullable? (Json.natBelow? limit64)) seed }
  | _ => none

/-- The written form of the parameters. -/
def text (p : GenerationParams) : String := p.toJson.render

end GenerationParams

namespace ResponseMetadata

def toJson (m : ResponseMetadata) : Json :=
  .obj [("token_count", Json.orNull .nat m.tokenCount),
    ("backend_latency_ms", Json.orNull .nat m.latency),
    ("relaxed_constraints", .strings m.relaxed)]

def ofJson? (doc : Json) : Option ResponseMetadata := do
  match ← doc.record? [["token_count"], ["backend_latency_ms"], ["relaxed_constraints"]] with
  | [tokenCount, latency, relaxed] =>
    return {
      tokenCount := ← Json.defaulted none (Json.nullable? (Json.natBelow? limit32)) tokenCount
      latency := ← Json.defaulted none (Json.nullable? (Json.natBelow? limit64)) latency
      relaxed := ← Json.defaulted [] (Json.list? Json.string?) relaxed }
  | _ => none

end ResponseMetadata

namespace BackendResponse

def toJson (r : BackendResponse) : Json :=
  .obj [("text", .str r.text), ("metadata", r.metadata.toJson)]

def ofJson? (doc : Json) : Option BackendResponse := do
  match ← doc.record? [["text"], ["metadata"]] with
  | [text, metadata] =>
    return ⟨← Json.required Json.string? text,
      ← Json.defaulted {} ResponseMetadata.ofJson? metadata⟩
  | _ => none

end BackendResponse

end GuidedDecoding
