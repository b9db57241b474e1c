import GuidedDecoding.Fingerprint

/-!
# Errors of dispatch

A backend reports a failure, and only transient failures are worth another attempt. A dispatch
fails when its attempts are used up, when a failure is not transient, or when its deadline passes.
-/

namespace GuidedDecoding

/-- A failure that a backend reports, or that happens on the way to it. -/
inductive BackendFailure where
  | transport (detail : String)
  | overloaded (detail : String)
  | unsatisfiable (detail : String)
  | malformedArtifact (detail : String)
  | rejected (status : Nat) (detail : String)
deriving DecidableEq, Repr

namespace BackendFailure

/-- Whether another attempt may succeed. -/
def isRetryable : BackendFailure → Bool
  | .transport _ => true
  | .overloaded _ => true
  | _ => false

def message : BackendFailure → String
  | .transport detail => s!"transport error: {detail}"
  | .overloaded detail => s!"backend overloaded: {detail}"
  | .unsatisfiable detail => s!"constraints unsatisfiable: {detail}"
  | .malformedArtifact detail => s!"malformed IR: {detail}"
  | .rejected status detail => s!"request rejected with status {status}: {detail}"

end BackendFailure

/-- Why a dispatch has no output. Times are in milliseconds. -/
inductive DispatchError where
  | timeout (source : Fingerprint) (attempts elapsed : Nat) (cause : Option BackendFailure)
  | backend (source : Fingerprint) (attempts : Nat) (retryable : Bool) (cause : BackendFailure)
deriving DecidableEq

namespace DispatchError

/-- A stable word for the kind of error. -/
def code : DispatchError → String
  | .timeout .. => "DISPATCH_TIMEOUT"
  | .backend .. => "DISPATCH_BACKEND_ERROR"

/-- How many attempts were made. -/
def attempts : DispatchError → Nat
  | .timeout _ attempts _ _ => attempts
  | .backend _ attempts _ _ => attempts

/-- The failure seen last. -/
def lastCause : DispatchError → Option BackendFailure
  | .timeout _ _ _ cause => cause
  | .backend _ _ _ cause => some cause

/-- The set of constraints whose artifact was dispatched. -/
def source : DispatchError → Fingerprint
  | .timeout source _ _ _ => source
  | .backend source _ _ _ => source

def message : DispatchError → String
  | .timeout source attempts elapsed _ =>
    s!"dispatch of {source.hex} timed out after {elapsed} ms ({attempts} attempts)"
  | .backend source attempts _ cause =>
    s!"backend error for {source.hex} after {attempts} attempts: {cause.message}"

end DispatchError

end GuidedDecoding
