import GuidedDecoding.Engine
import GuidedDecoding.Proofs.Cache.Transparency
import GuidedDecoding.Proofs.Dispatch.Alone

/-!
# What does not compile never reaches the backend

An engine answers a generation with what the compiler gives for its set, whatever was generated
before and whatever has happened to the cache. If the set does not compile, nothing is dispatched
and the backend receives no call. Otherwise the backend receives calls for this generation only,
each with its prompt, its parameters and the artifact that its set compiles to, and the result names
the set (`Engine.run_gates`).

It rests on one invariant: the cache is what the requests among the steps make of it, and on the
line of time all that was dispatched has come to its result.
-/

namespace GuidedDecoding

/-- What can happen to an engine. -/
inductive EngineStep where
  | generate (set : ConstraintSet) (g : Generation)
  | cache (s : CacheStep)
  | pass (time : Nat)

/-- What a step does to the cache. -/
def EngineStep.cacheStep? : EngineStep → Option CacheStep
  | .generate set _ => some (.request set)
  | .cache s => some s
  | .pass _ => none

namespace Engine

section

variable [RegexLibrary]

/-- The engine after a step. -/
def step (e : Engine) : EngineStep → Engine
  | .generate set g => (e.generate set g).2.2
  | .cache s => { e with cache := e.cache.step e.compiler s }
  | .pass time => { e with timeline := { e.timeline with now := max e.timeline.now time } }

/-- The engine of a configuration after some steps. -/
def run (config : Config) (steps : List EngineStep) : Engine := steps.foldl step (.ofConfig config)

/-- A generation is answered with what the compiler gives. If that is an error, nothing is
dispatched and the backend is not called. Otherwise the generation comes to a result that names its
set, and meanwhile the backend is called for this generation only, with its prompt, its parameters
and the artifact of its set, once for each attempt. -/
structure Gates (config : CompilerConfig) (e : Engine) (set : ConstraintSet) (g : Generation) :
    Prop where
  answer : (e.generate set g).1.result = set.compile config
  refused : ∀ fault, set.compile config = .error fault →
    (e.generate set g).2.1 = none ∧ (e.generate set g).2.2.timeline = e.timeline
  served : ∀ a, set.compile config = .ok a → ∃ d result calls,
    (e.generate set g).2.1 = some d ∧ d.result? = some result ∧ d.source = set.fingerprint ∧
      (e.generate set g).2.2.timeline.calls = e.timeline.calls ++ calls ∧ calls ≠ [] ∧
      calls.length = result.attempts ∧
      ∀ call ∈ calls, call.prompt = g.prompt ∧ call.params = g.params ∧ call.artifact = a

variable {config : Config} {e : Engine} {steps : List EngineStep} {set : ConstraintSet}
  {g : Generation} {a : Artifact} {fault : CompileError}

theorem generate_of_error (h : (e.compile set).1.result = .error fault) :
    e.generate set g = ((e.compile set).1, none, (e.compile set).2) := by
  simp only [generate, h]

theorem generate_of_ok (h : (e.compile set).1.result = .ok a) :
    e.generate set g = ((e.compile set).1,
      ((e.timeline.add (g.request a)).finish e.dispatcher).dispatches.getLast?,
      { (e.compile set).2 with
        timeline := (e.timeline.add (g.request a)).finish e.dispatcher }) := by
  simp only [generate, h]
  rfl

/-- What is the case after some steps. -/
structure Follows (config : Config) (steps : List EngineStep) (e : Engine) : Prop where
  compiler : e.compiler = config.compiler
  dispatcher : e.dispatcher = (Dispatcher.ofConfig config.dispatch).onEndlessClock
  cache : e.cache = .run config.compiler config.cache.effectiveCapacity
    (steps.filterMap EngineStep.cacheStep?)
  turns : ∃ requests, Timeline.TakesTurns e.dispatcher requests e.timeline
  settled : e.timeline.Settled

namespace Follows

theorem slots (h : Follows config steps e) : 0 < e.dispatcher.poolSize := by
  rw [h.dispatcher]
  exact Nat.lt_of_lt_of_le Nat.zero_lt_one (Nat.le_max_right _ _)

theorem endless (h : Follows config steps e) : e.dispatcher.lastInstant = none := by
  rw [h.dispatcher]
  rfl

theorem ofConfig (config : Config) : Follows config [] (.ofConfig config) :=
  ⟨rfl, rfl, rfl, ⟨[], .ofStart _⟩, ⟨rfl, rfl, fun _ member => by cases member⟩⟩

/-- The cache after one more step. -/
theorem run_append {s : EngineStep} {cacheStep : CacheStep} (h : Follows config steps e)
    (same : s.cacheStep? = some cacheStep) :
    e.cache.step e.compiler cacheStep = .run config.compiler config.cache.effectiveCapacity
      ((steps ++ [s]).filterMap EngineStep.cacheStep?) := by
  rw [List.filterMap_append, ArtifactCache.run, List.foldl_append, h.compiler, h.cache]
  simp only [List.filterMap_cons, same, List.filterMap_nil]
  rfl

theorem generate (h : Follows config steps e) :
    Follows config (steps ++ [.generate set g]) (e.generate set g).2.2 := by
  have cache := h.run_append (rfl : (EngineStep.generate set g).cacheStep? = some (.request set))
  obtain ⟨requests, turns⟩ := h.turns
  cases result : (e.compile set).1.result with
  | error fault =>
    rw [generate_of_error result]
    exact ⟨h.compiler, h.dispatcher, cache, ⟨requests, turns⟩, h.settled⟩
  | ok a =>
    rw [generate_of_ok result]
    obtain ⟨turns, settled⟩ := turns.finish h.slots h.settled (g.request a)
    exact ⟨h.compiler, h.dispatcher, cache, ⟨_, turns⟩, settled⟩

theorem step (h : Follows config steps e) (s : EngineStep) :
    Follows config (steps ++ [s]) (e.step s) := by
  cases s with
  | generate set g => exact h.generate
  | cache s => exact ⟨h.compiler, h.dispatcher, h.run_append rfl, h.turns, h.settled⟩
  | pass time =>
    obtain ⟨requests, turns⟩ := h.turns
    obtain ⟨turns, settled⟩ := turns.pass h.settled (Nat.le_max_left _ time)
    have same : (steps ++ [EngineStep.pass time]).filterMap EngineStep.cacheStep? =
        steps.filterMap EngineStep.cacheStep? := by
      rw [List.filterMap_append]
      exact List.append_nil _
    exact ⟨h.compiler, h.dispatcher, same ▸ h.cache, ⟨requests, turns⟩, settled⟩

theorem run (config : Config) (steps : List EngineStep) :
    Follows config steps (run config steps) := by
  induction steps using List.reverseRecOn with
  | nil => exact ofConfig config
  | append_singleton steps s ih =>
    rw [Engine.run, List.foldl_append]
    exact ih.step s

end Follows

/-- A request to the cache of a run gets what the compiler gives. -/
theorem result_getOrCompile {compiler : CompilerConfig} {capacity : Nat} {before : List CacheStep}
    (free : CollisionFree compiler (before ++ [.request set])) :
    ((ArtifactCache.run compiler capacity before).getOrCompile set
      (ConstraintSet.compile compiler)).1.result = set.compile compiler := by
  rcases (ArtifactCache.run compiler capacity before).getOrCompile_cases set
    (ConstraintSet.compile compiler) with ⟨e, ⟨found, sound⟩, result, -⟩ | ⟨result, -⟩
  · have here : set ∈ requestedIn (before ++ [.request set]) :=
      ArtifactCache.mem_requestedIn_iff.2 (List.mem_append_right _ List.mem_cons_self)
    obtain ⟨first, member, key, compiled⟩ :=
      free.compile_of_sound ((ArtifactCache.belongs_of_run found).append _) sound
    rw [free.set_eq member here compiled key] at compiled
    exact result.trans compiled.symm
  · exact result

/-- Whatever has happened to an engine, it gates the backend by what compiles. Contents that are
hashed along the way are taken to have different hashes. -/
theorem run_gates (config : Config) {before after : List EngineStep}
    (free : CollisionFree config.compiler (steps.filterMap EngineStep.cacheStep?))
    (split : steps = before ++ .generate set g :: after) :
    Gates config.compiler (run config before) set g := by
  subst split
  have follows := Follows.run config before
  generalize run config before = e at follows ⊢
  have answer : (e.compile set).1.result = set.compile config.compiler := by
    rw [Engine.compile, follows.cache, follows.compiler]
    refine result_getOrCompile (free.of_sublist ?_)
    rw [List.filterMap_append]
    exact (List.Sublist.refl _).append (by simp [EngineStep.cacheStep?])
  constructor
  case answer =>
    rw [← answer]
    cases result : (e.compile set).1.result with
    | error fault => rw [generate_of_error result, result]
    | ok a => rw [generate_of_ok result, result]
  case refused =>
    intro fault failed
    rw [generate_of_error (answer.trans failed)]
    exact ⟨rfl, rfl⟩
  case served =>
    intro a compiled
    obtain ⟨requests, turns⟩ := follows.turns
    obtain ⟨d, result, calls, done⟩ :=
      turns.exists_dispatched follows.slots follows.endless follows.settled (g.request a)
    have source : d.source = set.fingerprint := by
      rw [Dispatch.source, done.request]
      exact ConstraintSet.source_of_compile compiled
    rw [generate_of_ok (answer.trans compiled)]
    refine ⟨d, result, calls, done.last, done.finished, source, done.calls_eq, done.called,
      done.attempts, fun call made => ?_⟩
    obtain ⟨prompt, params, artifact⟩ := done.carries call made
    exact ⟨prompt, params, artifact⟩

end

/-- The set without members goes with two prompts, and its artifact is damaged between them. -/
def damagedBetween : List EngineStep :=
  [.generate .empty { prompt := "hello" },
    .cache (.damage ArtifactCache.emptyKey (.empty (.filled 0))), .pass 7,
    .generate .empty { prompt := "again" }]

theorem gates_damagedBetween :
    CollisionFree {} (damagedBetween.filterMap EngineStep.cacheStep?) ∧
      Gates {} (run {} (damagedBetween.take 3)) .empty { prompt := "again" } := by
  have steps : damagedBetween.filterMap EngineStep.cacheStep? =
      ArtifactCache.damagedRun.take 3 := rfl
  have free : CollisionFree {} (damagedBetween.filterMap EngineStep.cacheStep?) :=
    steps ▸ ArtifactCache.collisionFree_damagedRun.of_sublist (List.take_sublist 3 _)
  have split : damagedBetween =
      damagedBetween.take 3 ++ .generate .empty { prompt := "again" } :: [] := rfl
  exact ⟨free, run_gates {} free split⟩

end Engine

end GuidedDecoding
