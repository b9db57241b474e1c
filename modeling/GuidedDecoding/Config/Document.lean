import GuidedDecoding.Config.Codec
import GuidedDecoding.Toml.Reader.Document

/-!
# Configurations as TOML documents

Each part of a configuration is a table, and a setting that is left open has no entry. A part may
also be an array of its settings in order. A point in time stands for a table of entries that mean
nothing here, so it leaves every setting of a part open. Entries that mean nothing are ignored.

`Config.toToml?` writes the three tables in order. Integers of a document have 64 bits with a sign,
so a larger setting cannot be written.
-/

namespace GuidedDecoding

namespace Toml

/-- The integers of a document are smaller. -/
def integerLimit : Nat := 1 <<< 63

/-- A value as a natural number below a bound. -/
def Value.natBelow? (bound : Nat) : Value → Option Nat
  | .integer n => if 0 ≤ n ∧ n < bound then some n.toNat else none
  | _ => none

def Value.boolean? : Value → Option Bool
  | .boolean b => some b
  | _ => none

/-- The values of some settings of a part, by name or by position. -/
def Value.settings? (names : List String) : Value → Option (List (Option Value))
  | .table _ entries => some (names.map fun name => Entries.get? name entries)
  | .array items => some (names.zipIdx.map fun (_, i) => items[i]?)
  | .tables items => some (names.zipIdx.map fun (_, i) => (items[i]?).map (.table .header))
  | .moment => some (names.map fun _ => none)
  | _ => none

/-- Read a setting that may be left open. -/
def setting? {α : Type} (read : Value → Option α) : Option Value → Option (Option α)
  | none => some none
  | some v => (read v).map some

/-- Read a part that may be left out. -/
def part? {α : Type} (whole : α) (read : Value → Option α) (name : String) (entries : Entries) :
    Option α :=
  match Entries.get? name entries with
  | none => some whole
  | some v => read v

end Toml

namespace CompilerConfig

def ofToml? (v : Toml.Value) : Option CompilerConfig := do
  match ← v.settings? ["max_grammar_expansion", "regex_size_limit"] with
  | [expansion, limit] =>
    return ⟨← Toml.setting? (Toml.Value.natBelow? limit64) expansion,
      ← Toml.setting? (Toml.Value.natBelow? limit64) limit⟩
  | _ => none

end CompilerConfig

namespace CacheConfig

def ofToml? (v : Toml.Value) : Option CacheConfig := do
  match ← v.settings? ["capacity"] with
  | [capacity] => return ⟨← Toml.setting? (Toml.Value.natBelow? limit64) capacity⟩
  | _ => none

end CacheConfig

namespace DispatchConfig

def ofToml? (v : Toml.Value) : Option DispatchConfig := do
  match ← v.settings? fieldNames.flatten with
  | [attempts, initial, most, timeout, concurrency, jitter] =>
    return ⟨← Toml.setting? (Toml.Value.natBelow? limit32) attempts,
      ← Toml.setting? (Toml.Value.natBelow? limit64) initial,
      ← Toml.setting? (Toml.Value.natBelow? limit64) most,
      ← Toml.setting? (Toml.Value.natBelow? limit64) timeout,
      ← Toml.setting? (Toml.Value.natBelow? limit64) concurrency,
      ← Toml.setting? Toml.Value.boolean? jitter⟩
  | _ => none

end DispatchConfig

namespace Config

/-- The configuration that the entries of a document stand for. -/
def ofEntries? (entries : Toml.Entries) : Option Config := do
  return ⟨← Toml.part? {} CompilerConfig.ofToml? "compiler" entries,
    ← Toml.part? {} CacheConfig.ofToml? "cache" entries,
    ← Toml.part? {} DispatchConfig.ofToml? "dispatch" entries⟩

/-- The configuration that a text of a given name stands for. -/
def ofText (path text : String) : Except ConfigError Config :=
  match (Toml.parse text).bind ofEntries? with
  | some c => .ok c
  | none => .error (.unreadable path "not a configuration")

/-- What stands for the name of a text that comes from no file. -/
def textName : String := "<string>"

/-- The configuration that a text stands for; its settings are not validated. -/
def parse (text : String) : Except ConfigError Config := ofText textName text

/-- The line of a setting that is a number; nothing if it is left open. -/
def numberLine? (name : String) : Option Nat → Option String
  | none => some ""
  | some n => if n < Toml.integerLimit then some s!"{name} = {n}\n" else none

/-- The line of a setting that is a truth value; nothing if it is left open. -/
def booleanLine (name : String) : Option Bool → String
  | none => ""
  | some true => s!"{name} = true\n"
  | some false => s!"{name} = false\n"

/-- The document of a configuration, if it can be written. -/
def document? (c : Config) : Option String := do
  let compiler := (← numberLine? "max_grammar_expansion" c.compiler.maxGrammarExpansion)
    ++ (← numberLine? "regex_size_limit" c.compiler.regexSizeLimit)
  let cache ← numberLine? "capacity" c.cache.capacity
  let dispatch := (← numberLine? "max_attempts" c.dispatch.maxAttempts)
    ++ (← numberLine? "initial_backoff_ms" c.dispatch.initialBackoff)
    ++ (← numberLine? "max_backoff_ms" c.dispatch.maxBackoff)
    ++ (← numberLine? "request_timeout_ms" c.dispatch.requestTimeout)
    ++ (← numberLine? "max_concurrency" c.dispatch.maxConcurrency)
    ++ booleanLine "jitter" c.dispatch.jitter
  return "[compiler]\n" ++ compiler ++ "\n[cache]\n" ++ cache ++ "\n[dispatch]\n" ++ dispatch

/-- What stands for the name of a text that is being written. -/
def writtenName : String := "<serialization>"

/-- The document of a configuration. -/
def toToml (c : Config) : Except ConfigError String :=
  match c.document? with
  | some text => .ok text
  | none => .error (.unreadable writtenName "an integer is out of range")

end Config

end GuidedDecoding
