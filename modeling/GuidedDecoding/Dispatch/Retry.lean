import GuidedDecoding.Config.Basic

/-!
# Retrying with backoff

After a failed attempt the next one waits. The waits double from attempt to attempt up to a ceiling,
and may be shortened at random by at most one half, so that requests that failed together do not
come back together. Lengths of time are in nanoseconds.
-/

namespace GuidedDecoding

namespace Duration

/-- The nanoseconds in a millisecond. -/
def millisecond : Nat := 1000000

/-- A number of milliseconds. -/
def ofMillis (n : Nat) : Nat := n * millisecond

/-- The whole milliseconds in a length of time. -/
def toMillis (d : Nat) : Nat := d / millisecond

/-- No length of time is longer. -/
def longest : Nat := UInt64.size * 1000000000 - 1

end Duration

/-- How many attempts are made in all, and how long the waits between them are. -/
structure RetryPolicy where
  maxAttempts : Nat
  initialBackoff : Nat
  maxBackoff : Nat
  jitter : Bool
deriving DecidableEq, Repr

namespace RetryPolicy

/-- The policy of a configuration, which makes one attempt at least. -/
def ofConfig (c : DispatchConfig) : RetryPolicy where
  maxAttempts := max c.effectiveAttempts 1
  initialBackoff := Duration.ofMillis c.effectiveInitialBackoff
  maxBackoff := Duration.ofMillis c.effectiveMaxBackoff
  jitter := c.effectiveJitter

/-- The policy of a configuration that leaves everything open. -/
def standard : RetryPolicy := ofConfig {}

/-- The waits double this many times at most. -/
def maxDoublings : Nat := 31

/-- The wait after an attempt, attempts being numbered from one, before it is shortened. -/
def baseDelay (p : RetryPolicy) (attempt : Nat) : Nat :=
  min (min (p.initialBackoff * (1 <<< min (attempt - 1) maxDoublings)) Duration.longest)
    p.maxBackoff

/-- Whether the wait after an attempt is drawn at random. -/
def isDrawn (p : RetryPolicy) (attempt : Nat) : Bool := p.jitter && p.baseDelay attempt ≠ 0

/-- The milliseconds that may be drawn on top of one half of a wait, as far as 64 bits hold them. -/
def spread (p : RetryPolicy) (attempt : Nat) : Nat :=
  Duration.toMillis (p.baseDelay attempt - p.baseDelay attempt / 2) % UInt64.size

/-- The wait after an attempt, for a number drawn at random. -/
def delay (p : RetryPolicy) (attempt draw : Nat) : Nat :=
  if p.isDrawn attempt then
    p.baseDelay attempt / 2 + Duration.ofMillis (min draw (p.spread attempt))
  else p.baseDelay attempt

end RetryPolicy

end GuidedDecoding
