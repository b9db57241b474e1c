import GuidedDecoding.Error.Config

/-!
# Configuration

Every setting may be left open, and then a default holds. Durations are in milliseconds.
-/

namespace GuidedDecoding

/-- Limits of the compiler: how many strings of a bound rule are compared with the other
fragments, and how large a compiled pattern may be, in bytes. -/
structure CompilerConfig where
  maxGrammarExpansion : Option Nat := none
  regexSizeLimit : Option Nat := none
deriving DecidableEq, Repr

/-- How many artifacts are kept. -/
structure CacheConfig where
  capacity : Option Nat := none
deriving DecidableEq, Repr

/-- Attempts, the waits between them, the time for all of them, and how many calls run at once. -/
structure DispatchConfig where
  maxAttempts : Option Nat := none
  initialBackoff : Option Nat := none
  maxBackoff : Option Nat := none
  requestTimeout : Option Nat := none
  maxConcurrency : Option Nat := none
  jitter : Option Bool := none
deriving DecidableEq, Repr

/-- The configuration of the whole engine. -/
structure Config where
  compiler : CompilerConfig := {}
  cache : CacheConfig := {}
  dispatch : DispatchConfig := {}
deriving DecidableEq, Repr

namespace CompilerConfig

def effectiveExpansion (c : CompilerConfig) : Nat := c.maxGrammarExpansion.getD 256

def effectiveSizeLimit (c : CompilerConfig) : Nat := c.regexSizeLimit.getD (1 <<< 20)

end CompilerConfig

namespace CacheConfig

def effectiveCapacity (c : CacheConfig) : Nat := c.capacity.getD 256

end CacheConfig

namespace DispatchConfig

def effectiveAttempts (c : DispatchConfig) : Nat := c.maxAttempts.getD 3

def effectiveInitialBackoff (c : DispatchConfig) : Nat := c.initialBackoff.getD 100

def effectiveMaxBackoff (c : DispatchConfig) : Nat := c.maxBackoff.getD 5000

def effectiveTimeout (c : DispatchConfig) : Nat := c.requestTimeout.getD 30000

def effectiveConcurrency (c : DispatchConfig) : Nat := c.maxConcurrency.getD 8

def effectiveJitter (c : DispatchConfig) : Bool := c.jitter.getD true

end DispatchConfig

namespace Config

/-- The first setting that cannot be used. -/
def validate (c : Config) : Except ConfigError Unit :=
  if c.cache.effectiveCapacity = 0 then
    .error (.invalidValue "cache.capacity" "must be greater than 0")
  else if c.compiler.effectiveSizeLimit = 0 then
    .error (.invalidValue "compiler.regex_size_limit" "must be greater than 0")
  else if c.dispatch.effectiveAttempts = 0 then
    .error (.invalidValue "dispatch.max_attempts" "must be at least 1")
  else if c.dispatch.effectiveConcurrency = 0 then
    .error (.invalidValue "dispatch.max_concurrency" "must be at least 1")
  else if c.dispatch.effectiveTimeout = 0 then
    .error (.invalidValue "dispatch.request_timeout_ms" "must be greater than 0")
  else if c.dispatch.effectiveMaxBackoff < c.dispatch.effectiveInitialBackoff then
    .error (.invalidValue "dispatch.initial_backoff_ms" "must not exceed dispatch.max_backoff_ms")
  else .ok ()

end Config

end GuidedDecoding
