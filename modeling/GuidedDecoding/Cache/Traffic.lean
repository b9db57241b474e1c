import GuidedDecoding.Cache.Basic

/-!
# Calls to a cache that are under way at once

A call takes its steps while others take theirs. It looks its key up. If it finds a corrupt entry,
it then drops whatever is stored for the key by that time. A call that compiles goes on to fill the
gap: it takes what is stored by now, or waits for another call that is compiling for the key and
shares its answer, or else compiles itself. `CacheTraffic.move?` lets one of the calls take its next
step.
-/

namespace GuidedDecoding

/-- How far a call is that compiles what is missing. -/
inductive FillStage where
  | arrived
  | dropping
  | filling
  | compiling
  | waiting (leader : Nat)
  | answered (answer : CacheAnswer)

/-- How far a call is that only looks an artifact up. -/
inductive LookStage where
  | arrived
  | dropping
  | answered (artifact : Option Artifact)

/-- A call to a cache, and how far it is. -/
inductive CacheCall where
  | getOrCompile (source : Fingerprint) (compile : Unit → Except CompileError Artifact)
    (stage : FillStage)
  | get (source : Fingerprint) (stage : LookStage)

/-- What can be seen of a step: that a key is looked up and what is stored for it then, or that a
compiler is started. -/
inductive CacheEvent where
  | lookUp (source : Fingerprint) (stored : Option CacheEntry)
  | compile (source : Fingerprint)

/-- What a step of a call leads to. -/
structure CacheMove (σ : Type) where
  cache : ArtifactCache
  stage : σ
  event? : Option CacheEvent := none

/-- The same step, told of the whole call. -/
def CacheMove.map {σ τ : Type} (f : σ → τ) (m : CacheMove σ) : CacheMove τ :=
  ⟨m.cache, f m.stage, m.event?⟩

namespace CacheCall

/-- Whether a call is compiling for a key. -/
def isCompilingFor (source : Fingerprint) : CacheCall → Bool
  | .getOrCompile key _ .compiling => key = source
  | _ => false

/-- The answer that a call which compiles has got. -/
def answer? : CacheCall → Option CacheAnswer
  | .getOrCompile _ _ (.answered answer) => some answer
  | _ => none

/-- Whether a call has returned. -/
def hasReturned : CacheCall → Bool
  | .getOrCompile _ _ (.answered _) => true
  | .get _ (.answered _) => true
  | _ => false

end CacheCall

namespace ArtifactCache

variable {σ : Type}

/-- A call looks its key up, and goes on as what it finds demands. -/
def lookUp (c : ArtifactCache) (source : Fingerprint) (hit : Artifact → σ) (absent corrupt : σ) :
    CacheMove σ where
  cache := (c.lookup source).2
  stage :=
    match (c.lookup source).1 with
    | .hit a => hit a
    | .absent => absent
    | .corrupt _ => corrupt
  event? := some (.lookUp source (c.store.get? source))

/-- Count a request that another one's compilation serves. -/
def coalesce (c : ArtifactCache) : ArtifactCache :=
  { c with counts := { c.counts with coalesced := c.counts.coalesced + 1 } }

end ArtifactCache

/-- The next step of a call that only looks an artifact up. -/
def LookStage.next? (c : ArtifactCache) (source : Fingerprint) :
    LookStage → Option (CacheMove LookStage)
  | .arrived => some (c.lookUp source (fun a => .answered (some a)) (.answered none) .dropping)
  | .dropping => some ⟨c.invalidate source, .answered none, none⟩
  | .answered _ => none

/-- The next step of a call that compiles what is missing, among other calls. One that waits goes on
when the call that it waits for has its answer. -/
def FillStage.next? (calls : List CacheCall) (c : ArtifactCache) (source : Fingerprint)
    (compile : Unit → Except CompileError Artifact) : FillStage → Option (CacheMove FillStage)
  | .arrived => some (c.lookUp source (fun a => .answered ⟨.ok a, false⟩) .filling .dropping)
  | .dropping => some ⟨c.invalidate source, .filling, none⟩
  | .filling =>
    if c.contains source then
      some ⟨(c.fill source compile).2, .answered (c.fill source compile).1, none⟩
    else
      match calls.findIdx? (CacheCall.isCompilingFor source) with
      | some leader => some ⟨c, .waiting leader, none⟩
      | none => some ⟨c, .compiling, some (.compile source)⟩
  | .compiling => some ⟨(c.fill source compile).2, .answered (c.fill source compile).1, none⟩
  | .waiting leader =>
    (calls[leader]?.bind CacheCall.answer?).map fun answer =>
      ⟨c.coalesce, .answered { answer with compiled := false }, none⟩
  | .answered _ => none

/-- The next step of a call among other calls. -/
def CacheCall.next? (calls : List CacheCall) (c : ArtifactCache) :
    CacheCall → Option (CacheMove CacheCall)
  | .getOrCompile source compile stage =>
    (stage.next? calls c source compile).map (.map (.getOrCompile source compile))
  | .get source stage => (stage.next? c source).map (.map (.get source))

/-- A cache with the calls that have come to it, and what has been seen of them. -/
structure CacheTraffic where
  cache : ArtifactCache
  calls : List CacheCall := []
  seen : List CacheEvent := []

namespace CacheTraffic

/-- A call comes to the cache. -/
def begin (t : CacheTraffic) (call : CacheCall) : CacheTraffic :=
  { t with calls := t.calls ++ [call] }

/-- One of the calls takes its next step, if it can. -/
def move? (t : CacheTraffic) (caller : Nat) : Option CacheTraffic := do
  let call ← t.calls[caller]?
  let m ← call.next? t.calls t.cache
  return {
    cache := m.cache
    calls := t.calls.set caller m.stage
    seen := t.seen ++ m.event?.toList }

end CacheTraffic

end GuidedDecoding
