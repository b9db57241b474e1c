import GuidedDecoding.Error.Compile
import GuidedDecoding.Error.Config
import GuidedDecoding.Error.Dispatch

/-!
# Errors of the engine

Whatever goes wrong is told as one kind of error, which keeps the code of the part it came from
and says in its message which part that was.
-/

namespace GuidedDecoding

/-- An entry of the artifact cache that does not pass its check. -/
structure CacheFault where
  source : String
  reason : String
deriving DecidableEq, Repr

namespace CacheFault

def code (_ : CacheFault) : String := "CACHE_CORRUPTION"

def message (f : CacheFault) : String :=
  s!"cache entry {f.source} failed integrity check: {f.reason}"

end CacheFault

/-- Anything that goes wrong in the engine. -/
inductive EngineError where
  | compile (cause : CompileError)
  | dispatch (cause : DispatchError)
  | config (cause : ConfigError)
  | taskFailed (reason : String)

namespace EngineError

def code : EngineError → String
  | .compile cause => cause.code
  | .dispatch cause => cause.code
  | .config cause => cause.code
  | .taskFailed _ => "TASK_FAILED"

def message : EngineError → String
  | .compile cause => s!"compile error: {cause.message}"
  | .dispatch cause => s!"dispatch error: {cause.message}"
  | .config cause => s!"configuration error: {cause.message}"
  | .taskFailed reason => s!"background task failed: {reason}"

end EngineError

/-- A message with its code in front. -/
def taggedMessage (code message : String) : String := s!"[{code}] {message}"

end GuidedDecoding
