import GuidedDecoding.Proofs.Cache.Turns

/-!
# A cache counts what happens to it

However calls to a cache take turns, and whatever is dropped, pushed out or damaged between their
steps, the counts of the cache account for every call. A miss stands for a compiler that was
started, a corruption for a look-up that found a corrupt entry, and each call that was served stands
in one of the counts of hits, misses and shared answers (`CacheTraffic.counts_exact`).

What is counted at a step is the subject of `CacheMove.Counts`. That a compiler is counted once it
is done rests on one invariant of the traffic: a key that a call is compiling for has no entry, and
no other call is compiling for it.
-/

namespace GuidedDecoding

/-! ### What is counted -/

/-- All requests that have been served, by the cache, by the compiler or by another call. -/
def CacheCounts.requests (c : CacheCounts) : Nat := c.hits + c.misses + c.coalesced

namespace CacheEvent

/-- A look-up finds an entry that passes its check. -/
def isHit : CacheEvent → Bool
  | .lookUp source (some e) => (e.fault? source).isNone
  | _ => false

/-- A look-up finds an entry that does not pass its check. -/
def isCorruption : CacheEvent → Bool
  | .lookUp source (some e) => (e.fault? source).isSome
  | _ => false

/-- A look-up finds an entry, sound or not. -/
def findsEntry : CacheEvent → Bool
  | .lookUp _ stored => stored.isSome
  | .compile _ => false

/-- A compiler is started. -/
def isCompilation : CacheEvent → Bool
  | .compile _ => true
  | .lookUp .. => false

/-- A look-up that finds an entry finds it sound or corrupt. -/
theorem findsEntry_split (event : CacheEvent) :
    event.findsEntry.toNat = event.isHit.toNat + event.isCorruption.toNat := by
  cases event with
  | compile source => rfl
  | lookUp source stored =>
    cases stored with
    | none => rfl
    | some e =>
      cases checked : e.fault? source <;> simp [findsEntry, isHit, isCorruption, checked]

end CacheEvent

namespace CacheCall

/-- A call that compiles what is missing, however far it is. -/
def mayCompile : CacheCall → Bool
  | .getOrCompile .. => true
  | .get .. => false

/-- A look-up that has returned an artifact. -/
def hasFound : CacheCall → Bool
  | .get _ (.answered (some _)) => true
  | _ => false

/-- Whether a call has been served: it has an answer or has found an artifact. -/
def isServed : CacheCall → Bool
  | .getOrCompile _ _ (.answered _) => true
  | .get _ (.answered (some _)) => true
  | _ => false

/-- Whether a call has run its compiler. -/
def hasCompiled : CacheCall → Bool
  | .getOrCompile _ _ (.answered answer) => answer.compiled
  | _ => false

/-- A call that counts for nothing: it has not been served and is not compiling. -/
def IsUncounted (call : CacheCall) : Prop :=
  call.isServed = false ∧ call.isCompiling = false ∧ call.hasCompiled = false

/-- Among the calls that have returned, those that were served are the ones that compile what is
missing and the look-ups that found an artifact. -/
theorem isServed_split {call : CacheCall} (returned : call.hasReturned = true) :
    call.isServed.toNat = call.mayCompile.toNat + call.hasFound.toNat := by
  cases call with
  | getOrCompile source compile stage =>
    cases stage with
    | answered answer => rfl
    | _ => cases returned
  | get source stage =>
    cases stage with
    | answered artifact => cases artifact <;> rfl
    | _ => cases returned

end CacheCall

/-! ### Where entries are -/

namespace ArtifactCache

variable {c c' : ArtifactCache} {source key : Fingerprint}
  {compile : Unit → Except CompileError Artifact}

/-- A cache has entries only where another one has some. -/
def Within (c' c : ArtifactCache) : Prop :=
  ∀ key, c'.contains key = true → c.contains key = true

theorem Within.contains_le (within : c'.Within c) (key : Fingerprint) :
    (c'.contains key).toNat ≤ (c.contains key).toNat :=
  Bool.toNat_le_toNat (within key)

theorem Within.refl (c : ArtifactCache) : c.Within c := fun _ => id

theorem within_touch (same : c'.store = c.store.touch source) : c'.Within c := by
  intro key there
  obtain ⟨e, found⟩ := contains_iff.1 there
  rw [same] at found
  exact contains_iff.2 ⟨e, RecencyStore.get?_of_get?_touch found⟩

theorem within_erase (same : c'.store = c.store.erase source) : c'.Within c := by
  intro key there
  obtain ⟨e, found⟩ := contains_iff.1 there
  rw [same, RecencyStore.get?_erase] at found
  split at found
  · cases found
  · exact contains_iff.2 ⟨e, found⟩

theorem within_clear (c : ArtifactCache) : c.clear.Within c := by
  intro key there
  cases there

theorem within_damage (c : ArtifactCache) (source : Fingerprint) (a : Artifact) :
    (c.damage source a).Within c := by
  intro key there
  obtain ⟨e, found⟩ := contains_iff.1 there
  rw [damage, RecencyStore.get?_alter] at found
  obtain ⟨e, found, -⟩ := Option.map_eq_some_iff.1 found
  exact contains_iff.2 ⟨e, found⟩

/-- Filling takes what is stored, and counts a shared answer. -/
theorem fill_of_contains (compile : Unit → Except CompileError Artifact)
    (there : c.contains source = true) :
    ∃ e : CacheEntry, c.fill source compile =
      (⟨.ok e.artifact, false⟩, { c.coalesce with store := c.store.touch source }) := by
  obtain ⟨e, found⟩ := contains_iff.1 there
  refine ⟨e, ?_⟩
  simp only [fill, found]
  rfl

/-- Filling compiles if nothing is stored, and counts a miss whatever comes of it. -/
theorem counts_of_fill (compile : Unit → Except CompileError Artifact)
    (missing : c.contains source = false) :
    ∃ evictions, (c.fill source compile).2.counts =
      { c.counts with misses := c.counts.misses + 1, evictions := evictions } := by
  simp only [fill, contains_eq_false_iff.1 missing]
  cases compile () with
  | ok a => exact ⟨_, rfl⟩
  | error e => exact ⟨_, rfl⟩

theorem contains_of_fill (there : (c.fill source compile).2.contains key = true)
    (other : source ≠ key) : c.contains key = true := by
  obtain ⟨e, found⟩ := contains_iff.1 there
  refine contains_iff.2 ⟨e, ?_⟩
  cases stored : c.store.get? source with
  | some filed =>
    simp only [fill, stored] at found
    exact RecencyStore.get?_of_get?_touch found
  | none =>
    simp only [fill, stored] at found
    split at found
    · exact RecencyStore.get?_of_get?_put other found
    · exact found

end ArtifactCache

/-! ### One step of a call -/

/-- What a step of a call is counted as. A call that is compiling is counted as a miss once it is
done. A call starts to compile for a key only while nothing is stored for it and no other call is
compiling for it. -/
structure CacheMove.Counts (calls : List CacheCall) (c : ArtifactCache) (call : CacheCall)
    (m : CacheMove CacheCall) : Prop where
  hits : m.cache.counts.hits = c.counts.hits + m.event?.toList.countP CacheEvent.isHit
  corruptions : m.cache.counts.corruptions =
    c.counts.corruptions + m.event?.toList.countP CacheEvent.isCorruption
  misses : m.cache.counts.misses + m.stage.isCompiling.toNat =
    c.counts.misses + call.isCompiling.toNat + m.event?.toList.countP CacheEvent.isCompilation
  compiled : m.cache.counts.misses + call.hasCompiled.toNat =
    c.counts.misses + m.stage.hasCompiled.toNat
  requests : m.cache.counts.requests + call.isServed.toNat =
    c.counts.requests + m.stage.isServed.toNat
  alone : ∀ key, (m.stage.isCompilingFor key).toNat + (m.cache.contains key).toNat ≤
      (call.isCompilingFor key).toNat + (c.contains key).toNat ∨
    calls.countP (CacheCall.isCompilingFor key) = 0 ∧ c.contains key = false ∧
      (m.stage.isCompilingFor key).toNat + (m.cache.contains key).toNat ≤ 1

namespace CacheCall

variable {calls : List CacheCall} {c : ArtifactCache} {call : CacheCall} {m : CacheMove CacheCall}
  {source : Fingerprint}

theorem isCompilingFor_compiling (source key : Fingerprint)
    (compile : Unit → Except CompileError Artifact) :
    (getOrCompile source compile .compiling).isCompilingFor key = decide (source = key) := rfl

/-- A step that starts no compiler and stores nothing leaves a key as alone as it was. -/
theorem alone_of_within (within : m.cache.Within c) (idle : m.stage.isCompiling = false) :
    ∀ key, (m.stage.isCompilingFor key).toNat + (m.cache.contains key).toNat ≤
        (call.isCompilingFor key).toNat + (c.contains key).toNat ∨
      calls.countP (isCompilingFor key) = 0 ∧ c.contains key = false ∧
        (m.stage.isCompilingFor key).toNat + (m.cache.contains key).toNat ≤ 1 := by
  intro key
  have le := within.contains_le key
  rw [isCompilingFor_of_idle idle, Bool.toNat_false, Nat.zero_add]
  exact .inl (Nat.le_trans le (Nat.le_add_left _ _))

/-- A look-up counts a hit if it is served, and a corruption if the entry it finds is corrupt. -/
theorem counts_of_lookUp {hit : Artifact → CacheCall} {absent corrupt : CacheCall}
    (new : call.IsUncounted) (served : ∀ a, (hit a).isServed = true ∧ (hit a).isCompiling = false ∧
      (hit a).hasCompiled = false) (missed : absent.IsUncounted) (failed : corrupt.IsUncounted) :
    CacheMove.Counts calls c call (c.lookUp source hit absent corrupt) := by
  unfold ArtifactCache.lookUp
  obtain ⟨found, looked⟩ | ⟨e, found, sound, looked⟩ | ⟨e, fault, found, corrupted, looked⟩ :=
    c.lookup_cases source
  · rw [looked, found]
    refine ⟨rfl, rfl, ?_, ?_, ?_, alone_of_within (.refl c) missed.2.1⟩
    · simp [missed.2.1, new.2.1, CacheEvent.isCompilation]
    · simp [missed.2.2, new.2.2]
    · simp [missed.1, new.1]
  · obtain ⟨hitServed, hitCompiling, hitCompiled⟩ := served e.artifact
    rw [looked, found]
    refine ⟨?_, ?_, ?_, ?_, ?_, alone_of_within (ArtifactCache.within_touch rfl) hitCompiling⟩
    · simp [CacheEvent.isHit, sound]
    · simp [CacheEvent.isCorruption, sound]
    · simp [hitCompiling, new.2.1, CacheEvent.isCompilation]
    · simp [hitCompiled, new.2.2]
    · simp [CacheCounts.requests, hitServed, new.1]
      omega
  · rw [looked, found]
    refine ⟨?_, ?_, ?_, ?_, ?_, alone_of_within (fun _ => id) failed.2.1⟩
    · simp [CacheEvent.isHit, corrupted]
    · simp [CacheEvent.isCorruption, corrupted]
    · simp [failed.2.1, new.2.1, CacheEvent.isCompilation]
    · simp [failed.2.2, new.2.2]
    · simp [CacheCounts.requests, failed.1, new.1]

/-- A call that is done compiling is counted as a miss. Nothing was stored for its key before. -/
theorem counts_of_compile (compile : Unit → Except CompileError Artifact)
    (missing : c.contains source = false) :
    CacheMove.Counts calls c (.getOrCompile source compile .compiling)
      ⟨(c.fill source compile).2,
        .getOrCompile source compile (.answered (c.fill source compile).1), none⟩ := by
  obtain ⟨evictions, counts⟩ := ArtifactCache.counts_of_fill compile missing
  have compiled : (c.fill source compile).1.compiled = true :=
    ArtifactCache.compiled_of_fill compile missing
  refine ⟨by rw [counts]; rfl, by rw [counts]; rfl, by rw [counts]; rfl, ?_, ?_,
    fun key => .inl ?_⟩
  · simp [counts, hasCompiled, compiled]
  · simp only [counts, CacheCounts.requests, isServed, Bool.toNat_true, Bool.toNat_false]
    omega
  · rw [isCompilingFor_compiling, isCompilingFor_of_idle rfl, Bool.toNat_false, Nat.zero_add]
    by_cases mine : source = key
    · have one := Bool.toNat_le ((c.fill source compile).2.contains key)
      simpa [mine] using Nat.le_trans one (Nat.le_add_right 1 _)
    · have kept : (c.fill source compile).2.contains key = true → c.contains key = true :=
        fun there => ArtifactCache.contains_of_fill there mine
      simpa [mine] using Bool.toNat_le_toNat kept

/-- A call that starts to compile is the only one for its key. -/
theorem counts_of_start (compile : Unit → Except CompileError Artifact)
    (missing : c.contains source = false)
    (nobody : calls.findIdx? (isCompilingFor source) = none) :
    CacheMove.Counts calls c (.getOrCompile source compile .filling)
      ⟨c, .getOrCompile source compile .compiling, some (.compile source)⟩ := by
  refine ⟨rfl, rfl, rfl, rfl, rfl, fun key => ?_⟩
  have idle : isCompilingFor key (.getOrCompile source compile .filling) = false := rfl
  rw [isCompilingFor_compiling, idle]
  by_cases mine : source = key
  · subst mine
    have others : calls.countP (isCompilingFor source) = 0 := by
      refine List.countP_eq_zero.2 fun other member => ?_
      rw [List.findIdx?_eq_none_iff.1 nobody other member]
      nofun
    exact .inr ⟨others, missing, by simp [missing]⟩
  · exact .inl (by simp [mine])

theorem Step.counts (step : Step calls c call m)
    (apart : ∀ key, call.isCompilingFor key = true → c.contains key = false) :
    m.Counts calls c call := by
  cases step with
  | lookUp source =>
    exact counts_of_lookUp ⟨rfl, rfl, rfl⟩ (fun _ => ⟨rfl, rfl, rfl⟩) ⟨rfl, rfl, rfl⟩
      ⟨rfl, rfl, rfl⟩
  | lookUpFirst source compile =>
    exact counts_of_lookUp ⟨rfl, rfl, rfl⟩ (fun _ => ⟨rfl, rfl, rfl⟩) ⟨rfl, rfl, rfl⟩
      ⟨rfl, rfl, rfl⟩
  | drop source | dropFirst source compile =>
    exact ⟨rfl, rfl, rfl, rfl, rfl, alone_of_within (ArtifactCache.within_erase rfl) rfl⟩
  | take compile there =>
    obtain ⟨e, filled⟩ := ArtifactCache.fill_of_contains compile there
    rw [filled]
    exact ⟨rfl, rfl, rfl, rfl, rfl, alone_of_within (ArtifactCache.within_touch rfl) rfl⟩
  | wait compile missing leads =>
    exact ⟨rfl, rfl, rfl, rfl, rfl, alone_of_within (.refl c) rfl⟩
  | start compile missing nobody => exact counts_of_start compile missing nobody
  | compile source compile =>
    exact counts_of_compile compile (apart source (by simp [isCompilingFor]))
  | share source compile answered =>
    exact ⟨rfl, rfl, rfl, rfl, rfl, alone_of_within (fun _ => id) rfl⟩

end CacheCall

/-! ### All calls -/

namespace CacheTraffic

variable {t t' : CacheTraffic} {caller : Nat}

/-- The counts of the cache account for what has been seen and for the calls that have been served.
A key has an entry, or one call that is compiling for it, or neither. -/
structure Balanced (t : CacheTraffic) : Prop where
  hits : t.cache.counts.hits = t.seen.countP CacheEvent.isHit
  corruptions : t.cache.counts.corruptions = t.seen.countP CacheEvent.isCorruption
  misses : t.cache.counts.misses + t.calls.countP CacheCall.isCompiling =
    t.seen.countP CacheEvent.isCompilation
  compiled : t.cache.counts.misses = t.calls.countP CacheCall.hasCompiled
  requests : t.cache.counts.requests = t.calls.countP CacheCall.isServed
  alone : ∀ key,
    t.calls.countP (CacheCall.isCompilingFor key) + (t.cache.contains key).toNat ≤ 1

theorem Balanced.move (h : t.Balanced) (moved : t.move? caller = some t') : t'.Balanced := by
  obtain ⟨call, m, here, step, rfl⟩ := exists_of_move? moved
  have apart : ∀ key, call.isCompilingFor key = true → t.cache.contains key = false := by
    intro key compiling
    have some_there : 1 ≤ t.calls.countP (CacheCall.isCompilingFor key) :=
      List.one_le_countP_iff.2 ⟨call, List.mem_of_getElem? here, compiling⟩
    have alone := h.alone key
    rw [← Bool.toNat_eq_zero]
    omega
  have counts := step.counts apart
  have traded (p : CacheCall → Bool) := countP_set_add p here m.stage
  refine ⟨?_, ?_, ?_, ?_, ?_, fun key => ?_⟩
  · rw [List.countP_append, ← h.hits, counts.hits]
  · rw [List.countP_append, ← h.corruptions, counts.corruptions]
  · rw [List.countP_append, ← h.misses]
    have := traded CacheCall.isCompiling
    have := counts.misses
    dsimp only
    omega
  · have := traded CacheCall.hasCompiled
    have := counts.compiled
    have := h.compiled
    dsimp only
    omega
  · have := traded CacheCall.isServed
    have := counts.requests
    have := h.requests
    dsimp only
    omega
  · have := traded (CacheCall.isCompilingFor key)
    have := counts.alone key
    have := h.alone key
    dsimp only
    omega

theorem Balanced.begin (h : t.Balanced) {call : CacheCall} (new : call.IsUncounted) :
    (t.begin call).Balanced := by
  refine ⟨h.hits, h.corruptions, ?_, ?_, ?_, fun key => ?_⟩
  · simpa [CacheTraffic.begin, new.2.1] using h.misses
  · simpa [CacheTraffic.begin, new.2.2] using h.compiled
  · simpa [CacheTraffic.begin, new.1] using h.requests
  · simpa [CacheTraffic.begin, CacheCall.isCompilingFor_of_idle new.2.1] using h.alone key

/-- What drops or damages entries counts nothing but evictions. -/
theorem Balanced.disturb (h : t.Balanced) {c : ArtifactCache} (within : c.Within t.cache)
    {evictions : Nat} (counts : c.counts = { t.cache.counts with evictions := evictions }) :
    Balanced { t with cache := c } := by
  refine ⟨?_, ?_, ?_, ?_, ?_, fun key => ?_⟩
  · simpa only [counts] using h.hits
  · simpa only [counts] using h.corruptions
  · simpa only [counts] using h.misses
  · simpa only [counts] using h.compiled
  · simpa only [counts, CacheCounts.requests] using h.requests
  · exact Nat.le_trans (Nat.add_le_add_left (within.contains_le key) _) (h.alone key)

theorem Balanced.turn (h : t.Balanced) (turn : CacheTurn) : (t.turn turn).Balanced := by
  cases turn with
  | getOrCompile source compile => exact h.begin ⟨rfl, rfl, rfl⟩
  | get source => exact h.begin ⟨rfl, rfl, rfl⟩
  | step caller =>
    obtain same | moved := t.turn_step caller
    · rwa [same]
    · exact h.move moved
  | invalidate source => exact h.disturb (ArtifactCache.within_erase rfl) rfl
  | clear => exact h.disturb (ArtifactCache.within_clear _) rfl
  | evict source => exact h.disturb (ArtifactCache.within_erase rfl) rfl
  | damage source a => exact h.disturb (ArtifactCache.within_damage _ source a) rfl

theorem balanced_run (capacity : Nat) (turns : List CacheTurn) : (run capacity turns).Balanced :=
  run_induction ⟨rfl, rfl, rfl, rfl, rfl, fun _ => Nat.zero_le _⟩ (fun _ turn h => h.turn turn)
    turns

theorem Returned.countP_isCompiling (returned : t.Returned) :
    t.calls.countP CacheCall.isCompiling = 0 := by
  refine List.countP_eq_zero.2 fun call member compiling => ?_
  obtain ⟨source, compile, rfl⟩ := CacheCall.isCompiling_iff.1 compiling
  cases returned _ member

/-- What the counts of a cache say of the calls to it. -/
structure Accounts (t : CacheTraffic) : Prop where
  hits : t.cache.counts.hits = t.seen.countP CacheEvent.isHit
  corruptions : t.cache.counts.corruptions = t.seen.countP CacheEvent.isCorruption
  entries : t.cache.counts.hits + t.cache.counts.corruptions = t.seen.countP CacheEvent.findsEntry
  compiled : t.cache.counts.misses = t.calls.countP CacheCall.hasCompiled
  misses : t.Returned → t.cache.counts.misses = t.seen.countP CacheEvent.isCompilation
  served : t.Returned →
    t.cache.counts.hits + t.cache.counts.misses + t.cache.counts.coalesced =
      t.calls.countP CacheCall.mayCompile + t.calls.countP CacheCall.hasFound

/-- The counts of a cache account for all calls to it, in whatever order these take their turns. At
any time each look-up that found an entry is counted once, as a hit if the entry passed its check
and as a corruption if it did not, and the misses are the calls that have run their compilers. When
all calls have returned, these are all the compilers that were started, and every call that may
compile and every look-up that found an artifact is counted once, as a hit, as a miss or as served
by another call. -/
theorem counts_exact (capacity : Nat) (turns : List CacheTurn) :
    (run capacity turns).Accounts := by
  have balanced := balanced_run capacity turns
  refine ⟨balanced.hits, balanced.corruptions, ?_, balanced.compiled, fun returned => ?_,
    fun returned => ?_⟩
  · rw [balanced.hits, balanced.corruptions]
    exact (countP_eq_add fun event _ => event.findsEntry_split).symm
  · rw [← balanced.misses, returned.countP_isCompiling, Nat.add_zero]
  · rw [← countP_eq_add fun call member => CacheCall.isServed_split (returned call member)]
    exact balanced.requests

/-- A look-up of a sound entry returns the artifact at its first step. -/
theorem turn_get_of_sound {source : Fingerprint} {e : CacheEntry}
    (sound : t.cache.Sound source e) :
    (t.turn (.get source)).turn (.step t.calls.length) =
      { cache :=
          { store := t.cache.store.touch source
            counts := { t.cache.counts with hits := t.cache.counts.hits + 1 } }
        calls := t.calls ++ [.get source (.answered (some e.artifact))]
        seen := t.seen ++ [.lookUp source (some e)] } := by
  simp [turn, CacheTraffic.begin, move?, CacheCall.next?, LookStage.next?, ArtifactCache.lookUp,
    ArtifactCache.lookup_of_sound sound, CacheMove.map, sound.1]

/-- Two calls come for a key at once, and the second waits for the first. Then the artifact is
damaged, and a look-up and a call find it out. The call stores a new artifact, which the look-up
drops. One more call compiles. -/
def scuffle : List CacheTurn :=
  let key := Fingerprint.filled 1
  let compile := fun _ => .ok (.empty key)
  [.getOrCompile key compile, .step 0, .step 0,
    .getOrCompile key fun _ => .error (.inconsistent [] "not run"), .step 1, .step 1, .step 1,
    .step 0, .step 1,
    .damage key (.empty (.filled 2)), .get key, .step 2,
    .getOrCompile key compile, .step 3, .step 3, .step 3, .step 3, .step 2,
    .getOrCompile key compile, .step 4, .step 4, .step 4]

/-- A look-up of what is stored in the end. -/
def scuffleAndLook : List CacheTurn := scuffle ++ [.get (.filled 1), .step 5]

theorem counts_exact_scuffleAndLook :
    (run 2 scuffleAndLook).Returned ∧
    (run 2 scuffleAndLook).cache.counts =
      { hits := 1, misses := 3, coalesced := 1, corruptions := 2 } ∧
    (run 2 scuffleAndLook).seen.countP CacheEvent.isCompilation = 3 ∧
    1 + 3 + 1 = (run 2 scuffleAndLook).calls.countP CacheCall.mayCompile +
      (run 2 scuffleAndLook).calls.countP CacheCall.hasFound := by
  have stored : (run 2 scuffle).cache.Sound (.filled 1) (.ofArtifact (.empty (.filled 1))) :=
    ⟨rfl, CacheEntry.fault?_eq_none_iff.2 ⟨rfl, rfl⟩⟩
  have last : run 2 scuffleAndLook = _ := turn_get_of_sound stored
  have returned : (run 2 scuffleAndLook).Returned := by
    rw [last]
    decide
  have counts : (run 2 scuffleAndLook).cache.counts =
      { hits := 1, misses := 3, coalesced := 1, corruptions := 2 } := by
    rw [last]
    decide
  have accounts := counts_exact 2 scuffleAndLook
  refine ⟨returned, counts, ?_, ?_⟩
  · rw [← accounts.misses returned, counts]
  · rw [← accounts.served returned, counts]

end CacheTraffic

end GuidedDecoding
