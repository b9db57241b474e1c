import GuidedDecoding.Artifact.Basic
import GuidedDecoding.Constraint.Set

/-!
# What is told about a compilation

A compilation is announced when it starts. When it is over, every conflict that was settled is told
and then the size of the result, or else the error.

An observer may fail over an event. It then has taken no notice of the event, and no other observer
is concerned.
-/

namespace GuidedDecoding

/-- Something that is told about a compilation. -/
inductive CompileEvent where
  | started (source : Fingerprint) (constraints : Nat)
  | conflict (kept demoted : String)
  | finished (source : Fingerprint) (fragments advisory : Nat)
  | failed (source : Fingerprint) (error : CompileError)
deriving DecidableEq

namespace CompileEvent

/-- What is told about a conflict that was settled. -/
def ofNote (n : CompilationNote) : CompileEvent := .conflict n.kept n.demoted

/-- Everything told about a compilation of a set, given its result. -/
def ofCompilation (set : ConstraintSet) : Except CompileError Artifact → List CompileEvent
  | .ok a =>
    .started set.fingerprint set.size :: a.notes.map ofNote
      ++ [.finished set.fingerprint a.fragmentCount a.advisory.length]
  | .error e => [.started set.fingerprint set.size, .failed set.fingerprint e]

end CompileEvent

/-- What is done about an event, which changes what is remembered or fails. -/
structure Observer (σ : Type) where
  receive : CompileEvent → σ → Option σ

namespace Observer

variable {σ : Type}

/-- What an observer remembers after some events. -/
def observe (o : Observer σ) (events : List CompileEvent) (memory : σ) : σ :=
  events.foldl (fun m e => (o.receive e m).getD m) memory

/-- Remembers every event. -/
def recorder : Observer (List CompileEvent) := ⟨fun e seen => some (seen ++ [e])⟩

/-- Takes no notice. -/
def idle : Observer σ := ⟨fun _ m => some m⟩

/-- Fails over some events and takes no notice of others. -/
def failingOn (fails : CompileEvent → Bool) : Observer σ :=
  ⟨fun e m => if fails e then none else some m⟩

/-- What every observer remembers after some events. -/
def observeAll (observers : List (Observer σ)) (events : List CompileEvent) (memory : σ) : List σ :=
  observers.map fun o => o.observe events memory

end Observer

end GuidedDecoding
