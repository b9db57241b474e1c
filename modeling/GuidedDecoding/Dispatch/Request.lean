import GuidedDecoding.Artifact.Basic
import GuidedDecoding.Dispatch.Generation
import GuidedDecoding.Dispatch.Retry
import GuidedDecoding.Error.Dispatch

/-!
# Requests and what becomes of them

A request is a prompt with the artifact that its text has to obey. The backend is given by a script:
what it does with the first call for a request, with the second, and so on; after the end of the
script it answers at once. Times are in nanoseconds from the beginning.
-/

namespace GuidedDecoding

/-- What a backend does with a call: after some time, if ever, it answers or fails. -/
structure Turn where
  after : Option Nat := some 0
  answer : Except BackendFailure BackendResponse := .ok { text := "ok" }

/-- A request. It is not begun before `start`, and is not to go on after the deadline. The numbers
drawn at random for it are given by attempt. -/
structure DispatchRequest where
  prompt : String
  params : GenerationParams := {}
  artifact : Artifact
  start : Nat := 0
  deadline : Option Nat := none
  script : List Turn := []
  draw : Nat → Nat := fun _ => 0

namespace DispatchRequest

/-- What the backend does with the call of an attempt, attempts being numbered from one. -/
def turn (r : DispatchRequest) (attempt : Nat) : Turn := r.script.getD (attempt - 1) {}

end DispatchRequest

/-- A call that a backend receives. -/
structure BackendCall where
  request : Nat
  time : Nat
  attempt : Nat
  prompt : String
  params : GenerationParams
  artifact : Artifact

/-- How a dispatch ended. -/
inductive Classification where
  | success
  | transientExhausted
  | terminal
  | timedOut
deriving DecidableEq, Repr

namespace Classification

def name : Classification → String
  | .success => "success"
  | .transientExhausted => "transient_exhausted"
  | .terminal => "terminal"
  | .timedOut => "timed_out"

end Classification

/-- What a dispatch comes to. -/
structure DispatchResult where
  outcome : Except DispatchError BackendResponse
  attempts : Nat
  latency : Nat

namespace DispatchResult

def isSuccess (r : DispatchResult) : Bool := r.outcome.toBool

/-- How many attempts were made after the first. -/
def retryCount (r : DispatchResult) : Nat := r.attempts - 1

def classification (r : DispatchResult) : Classification :=
  match r.outcome with
  | .ok _ => .success
  | .error (.timeout ..) => .timedOut
  | .error (.backend _ _ true _) => .transientExhausted
  | .error (.backend _ _ false _) => .terminal

end DispatchResult

/-- A retry that was decided on: after which attempt, after what wait and why. -/
structure RetryNotice where
  attempt : Nat
  delay : Nat
  cause : BackendFailure

/-- Something that is told about a dispatch. -/
inductive DispatchEvent where
  | retry (source : Fingerprint) (notice : RetryNotice)
  | finished (source : Fingerprint) (success : Bool) (retries latency : Nat)

/-- The last instant that a clock can name which counts whole seconds with 63 bits. -/
def Clock.lastInstant : Nat := (1 <<< 63) * 1000000000 - 1

/-- How requests are dispatched. The clock may have a last instant, counted from the beginning. -/
structure Dispatcher where
  policy : RetryPolicy
  timeout : Nat
  poolSize : Nat
  lastInstant : Option Nat := some Clock.lastInstant

namespace Dispatcher

/-- Whether a time is one that the clock cannot name. -/
def isBeyond (c : Dispatcher) (time : Nat) : Bool := c.lastInstant.any (· < time)

/-- The dispatcher of a configuration, which makes one call at a time at least. -/
def ofConfig (c : DispatchConfig) : Dispatcher where
  policy := .ofConfig c
  timeout := Duration.ofMillis c.effectiveTimeout
  poolSize := max c.effectiveConcurrency 1

/-- The dispatcher with another policy, which no configuration has to allow. -/
def withPolicy (c : Dispatcher) (p : RetryPolicy) : Dispatcher := { c with policy := p }

/-- The dispatcher with a clock that names every time. -/
def onEndlessClock (c : Dispatcher) : Dispatcher := { c with lastInstant := none }

end Dispatcher

end GuidedDecoding
