import GuidedDecoding.Cache.Basic
import GuidedDecoding.Compilation.Basic
import GuidedDecoding.Dispatch.Timeline
import GuidedDecoding.Regex.Compiled

/-!
# Compiling and dispatching

The engine compiles the set that goes with a prompt through its cache and dispatches the prompt with
the artifact. What does not compile never reaches the backend. Compiling takes no time on the line
of time. An engine is run with the library of regular expressions that is written here, though it
could be with any other.
-/

namespace GuidedDecoding

/-- A prompt, before it is known what its text has to obey. -/
structure Generation where
  prompt : String
  params : GenerationParams := {}
  deadline : Option Nat := none
  script : List Turn := []
  draw : Nat → Nat := fun _ => 0

/-- The request for a text that obeys an artifact. -/
def Generation.request (g : Generation) (a : Artifact) : DispatchRequest where
  prompt := g.prompt
  params := g.params
  artifact := a
  deadline := g.deadline
  script := g.script
  draw := g.draw

/-- A compiler with a cache, and a dispatcher with its line of time. -/
structure Engine where
  compiler : CompilerConfig
  dispatcher : Dispatcher
  cache : ArtifactCache
  timeline : Timeline

namespace Engine

/-- The engine of a configuration, before anything has happened. No length of time in a
configuration is more than a five-hundredth of what a clock can count, so the clock of an engine is
taken to have no end. -/
def ofConfig (c : Config) : Engine where
  compiler := c.compiler
  dispatcher := (Dispatcher.ofConfig c.dispatch).onEndlessClock
  cache := .empty c.cache.effectiveCapacity
  timeline := .start (.ofConfig c.dispatch)

variable [RegexLibrary]

/-- The artifact of a set. -/
def compile (e : Engine) (set : ConstraintSet) : CacheAnswer × Engine :=
  let (answer, cache) := e.cache.getOrCompile set (ConstraintSet.compile e.compiler)
  (answer, { e with cache })

/-- Generate a text that obeys a set of constraints. Nothing is dispatched if the set does not
compile. -/
def generate (e : Engine) (set : ConstraintSet) (g : Generation) :
    CacheAnswer × Option Dispatch × Engine :=
  let (answer, e) := e.compile set
  match answer.result with
  | .error _ => (answer, none, e)
  | .ok a =>
    let timeline := e.timeline.dispatchInTurn e.dispatcher [g.request a]
    (answer, timeline.dispatches.getLast?, { e with timeline })

/-- Whether the artifact of a set is stored. -/
def contains (e : Engine) (set : ConstraintSet) : Bool := e.cache.contains set.fingerprint

/-- Drop the artifact of a set. -/
def invalidate (e : Engine) (set : ConstraintSet) : Engine :=
  { e with cache := e.cache.invalidate set.fingerprint }

/-- Drop all artifacts. -/
def clear (e : Engine) : Engine := { e with cache := e.cache.clear }

end Engine

end GuidedDecoding
