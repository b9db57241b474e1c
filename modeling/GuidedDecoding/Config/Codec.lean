import GuidedDecoding.Config.Basic
import GuidedDecoding.Dispatch.Generation

/-!
# Configurations as JSON documents

A setting that is left open is written as `null`.
-/

namespace GuidedDecoding

/-- A setting that is a number below a bound. -/
def Json.setting? (bound : Nat) : Option Json → Option (Option Nat) :=
  Json.defaulted none (Json.nullable? (Json.natBelow? bound))

namespace CompilerConfig

def toJson (c : CompilerConfig) : Json :=
  .obj [("max_grammar_expansion", Json.orNull .nat c.maxGrammarExpansion),
    ("regex_size_limit", Json.orNull .nat c.regexSizeLimit)]

def ofJson? (doc : Json) : Option CompilerConfig := do
  match ← doc.record? [["max_grammar_expansion"], ["regex_size_limit"]] with
  | [expansion, limit] => return ⟨← Json.setting? limit64 expansion, ← Json.setting? limit64 limit⟩
  | _ => none

end CompilerConfig

namespace CacheConfig

def toJson (c : CacheConfig) : Json := .obj [("capacity", Json.orNull .nat c.capacity)]

def ofJson? (doc : Json) : Option CacheConfig := do
  match ← doc.record? [["capacity"]] with
  | [capacity] => return ⟨← Json.setting? limit64 capacity⟩
  | _ => none

end CacheConfig

namespace DispatchConfig

def toJson (c : DispatchConfig) : Json :=
  .obj [("max_attempts", Json.orNull .nat c.maxAttempts),
    ("initial_backoff_ms", Json.orNull .nat c.initialBackoff),
    ("max_backoff_ms", Json.orNull .nat c.maxBackoff),
    ("request_timeout_ms", Json.orNull .nat c.requestTimeout),
    ("max_concurrency", Json.orNull .nat c.maxConcurrency),
    ("jitter", Json.orNull .bool c.jitter)]

/-- The names of the settings. -/
def fieldNames : List (List String) :=
  [["max_attempts"], ["initial_backoff_ms"], ["max_backoff_ms"], ["request_timeout_ms"],
    ["max_concurrency"], ["jitter"]]

def ofJson? (doc : Json) : Option DispatchConfig := do
  match ← doc.record? fieldNames with
  | [attempts, initial, most, timeout, concurrency, jitter] =>
    return ⟨← Json.setting? limit32 attempts, ← Json.setting? limit64 initial,
      ← Json.setting? limit64 most, ← Json.setting? limit64 timeout,
      ← Json.setting? limit64 concurrency,
      ← Json.defaulted none (Json.nullable? Json.bool?) jitter⟩
  | _ => none

end DispatchConfig

namespace Config

def toJson (c : Config) : Json :=
  .obj [("compiler", c.compiler.toJson), ("cache", c.cache.toJson),
    ("dispatch", c.dispatch.toJson)]

def ofJson? (doc : Json) : Option Config := do
  match ← doc.record? [["compiler"], ["cache"], ["dispatch"]] with
  | [compiler, cache, dispatch] =>
    return ⟨← Json.defaulted {} CompilerConfig.ofJson? compiler,
      ← Json.defaulted {} CacheConfig.ofJson? cache,
      ← Json.defaulted {} DispatchConfig.ofJson? dispatch⟩
  | _ => none

end Config

end GuidedDecoding
