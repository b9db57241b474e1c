import GuidedDecoding.Config.Document

/-!
# Loading a configuration

The settings of a file are overridden by variables of the environment, and what results is
validated. A variable whose value cannot be read is ignored.
-/

namespace GuidedDecoding

/-- The variables of an environment. -/
abbrev Environment := List (String × String)

/-- The file of a configuration; it has no content if it does not exist. -/
structure ConfigFile where
  path : String
  content : Option String

namespace Environment

/-- Decimal digits, with a plus in front or not, that stand for a number below a bound. -/
def natBelow? (bound : Nat) (text : String) : Option Nat :=
  let digits := match text.toList with
    | '+' :: s => s
    | s => s
  if digits.isEmpty || !digits.all Char.isDigit then none
  else
    let n := digits.foldl (fun n d => n * 10 + (d.toNat - '0'.toNat)) 0
    if n < bound then some n else none

def boolean? : String → Option Bool
  | "true" => some true
  | "false" => some false
  | _ => none

/-- The value of a variable, if it has one that can be read. -/
def value? {α : Type} (env : Environment) (read : String → Option α) (name : String) : Option α :=
  ((env.find? fun v => v.1 = name).map Prod.snd).bind read

end Environment

namespace Config

/-- The configuration under an environment. -/
def overridden (env : Environment) (c : Config) : Config :=
  let number (name : String) (old : Option Nat) :=
    (env.value? (Environment.natBelow? limit64) name).or old
  { compiler := {
      maxGrammarExpansion :=
        number "TETHER_COMPILER_MAX_GRAMMAR_EXPANSION" c.compiler.maxGrammarExpansion
      regexSizeLimit := number "TETHER_COMPILER_REGEX_SIZE_LIMIT" c.compiler.regexSizeLimit }
    cache := { capacity := number "TETHER_CACHE_CAPACITY" c.cache.capacity }
    dispatch := {
      maxAttempts := (env.value? (Environment.natBelow? limit32)
        "TETHER_DISPATCH_MAX_ATTEMPTS").or c.dispatch.maxAttempts
      initialBackoff := number "TETHER_DISPATCH_INITIAL_BACKOFF_MS" c.dispatch.initialBackoff
      maxBackoff := number "TETHER_DISPATCH_MAX_BACKOFF_MS" c.dispatch.maxBackoff
      requestTimeout := number "TETHER_DISPATCH_REQUEST_TIMEOUT_MS" c.dispatch.requestTimeout
      maxConcurrency := number "TETHER_DISPATCH_MAX_CONCURRENCY" c.dispatch.maxConcurrency
      jitter := (env.value? Environment.boolean? "TETHER_DISPATCH_JITTER").or c.dispatch.jitter } }

/-- The configuration of a file, or the one that leaves everything open. -/
def ofFile : Option ConfigFile → Except ConfigError Config
  | none => .ok {}
  | some ⟨path, none⟩ => .error (.fileNotFound path)
  | some ⟨path, some text⟩ => ofText path text

/-- Load a configuration. -/
def load (file : Option ConfigFile) (env : Environment) : Except ConfigError Config := do
  let c := (← ofFile file).overridden env
  c.validate
  return c

end Config

end GuidedDecoding
