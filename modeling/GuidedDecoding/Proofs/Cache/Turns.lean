import GuidedDecoding.Cache.Traffic
import GuidedDecoding.Proofs.Cache.Transparency
import GuidedDecoding.Proofs.Totals
import Mathlib.Data.List.Induction
import Mathlib.Logic.Relation

/-!
# Turns at a cache

Calls to a cache take their turns in any order. A call between whose steps nothing else happens does
what `ArtifactCache.get` and `ArtifactCache.getOrCompile` do in a row. Calls for one key that all
come before the first is answered get what `ArtifactCache.getTogether` gives
(`CacheTraffic.together`): the first compiles, and the others wait for it.

No call waits for ever: whatever has happened, the calls can go on until all have returned
(`CacheTraffic.exists_returned`).
-/

namespace GuidedDecoding

/-- What can happen next where calls come to a cache. -/
inductive CacheTurn where
  | getOrCompile (source : Fingerprint) (compile : Unit → Except CompileError Artifact)
  | get (source : Fingerprint)
  | step (caller : Nat)
  | invalidate (source : Fingerprint)
  | clear
  | evict (source : Fingerprint)
  | damage (source : Fingerprint) (artifact : Artifact)

namespace RecencyStore

variable {κ α : Type} [DecidableEq κ] {s : RecencyStore κ α} {key : κ} {value : α}

theorem capacity_pos (found : s.get? key = some value) : 0 < s.capacity := by
  obtain ⟨e, found, -⟩ := Option.map_eq_some_iff.1 found
  have some_there := List.length_pos_of_mem (List.mem_of_find?_eq_some found)
  exact Nat.lt_of_lt_of_le some_there s.bounded

theorem put_put (room : 0 < s.capacity) : (s.put key value).put key value = s.put key value := by
  obtain ⟨n, size⟩ := Nat.exists_eq_succ_of_ne_zero (Nat.ne_of_gt room)
  have kept : others key ((others key s.entries).take n) = (others key s.entries).take n := by
    refine List.filter_eq_self.2 fun e member => ?_
    exact (List.mem_filter.1 (List.mem_of_mem_take member)).2
  have front : others key ((key, value) :: (others key s.entries).take n) =
      others key ((others key s.entries).take n) := by
    simp [others]
  simp only [put, size, List.take_succ_cons, front, kept, List.take_take, Nat.min_self]

/-- An entry that was used just now is in front already. -/
theorem touch_touch (s : RecencyStore κ α) (key : κ) : (s.touch key).touch key = s.touch key := by
  cases found : s.get? key with
  | none => simp only [touch, found]
  | some value =>
    have there : (s.touch key).get? key = some value := get?_touch_self (capacity_pos found) found
    rw [touch, there]
    simp only [touch, found]
    exact put_put (capacity_pos found)

end RecencyStore

namespace ArtifactCache

variable {source : Fingerprint} {σ τ : Type}

/-- A look-up finds what is stored, if that passes its check. It counts a hit or a corruption if
anything is stored. -/
theorem lookup_cases (c : ArtifactCache) (source : Fingerprint) :
    (c.store.get? source = none ∧ c.lookup source = (.absent, c)) ∨
    (∃ e, c.store.get? source = some e ∧ e.fault? source = none ∧
      c.lookup source = (.hit e.artifact,
        { store := c.store.touch source, counts := { c.counts with hits := c.counts.hits + 1 } })) ∨
    ∃ e fault, c.store.get? source = some e ∧ e.fault? source = some fault ∧
      c.lookup source = (.corrupt fault,
        { c with counts := { c.counts with corruptions := c.counts.corruptions + 1 } }) := by
  cases found : c.store.get? source with
  | none => exact .inl ⟨rfl, by simp only [lookup, found]⟩
  | some e =>
    cases checked : e.fault? source with
    | none => exact .inr (.inl ⟨e, rfl, checked, by simp only [lookup, found, checked]⟩)
    | some fault =>
      exact .inr (.inr ⟨e, fault, rfl, checked, by simp only [lookup, found, checked]⟩)

theorem contains_iff {c : ArtifactCache} :
    c.contains source = true ↔ ∃ e, c.store.get? source = some e := by
  rw [contains, RecencyStore.contains, Option.isSome_iff_exists]

theorem contains_eq_false_iff {c : ArtifactCache} :
    c.contains source = false ↔ c.store.get? source = none := by
  rw [contains, RecencyStore.contains, Option.isSome_eq_false_iff, Option.isNone_iff_eq_none]

/-- Filling says that it has compiled if nothing was stored. -/
theorem compiled_of_fill {c : ArtifactCache} (compile : Unit → Except CompileError Artifact)
    (missing : c.contains source = false) : (c.fill source compile).1.compiled = true := by
  simp only [fill, contains_eq_false_iff.1 missing]
  cases compile () <;> rfl

theorem coalesce_iterate (c : ArtifactCache) (n : Nat) :
    coalesce^[n] c =
      { c with counts := { c.counts with coalesced := c.counts.coalesced + n } } := by
  induction n with
  | zero => rfl
  | succ n ih =>
    rw [Function.iterate_succ_apply', ih]
    rfl

theorem lookup_of_sound {c : ArtifactCache} {e : CacheEntry} (sound : c.Sound source e) :
    c.lookup source = (.hit e.artifact,
      { store := c.store.touch source
        counts := { c.counts with hits := c.counts.hits + 1 } }) := by
  simp only [lookup, sound.1, sound.2]

theorem Sound.touch {c : ArtifactCache} {e : CacheEntry} (sound : c.Sound source e)
    (counts : CacheCounts) : Sound ⟨c.store.touch source, counts⟩ source e :=
  ⟨RecencyStore.get?_touch_self (RecencyStore.capacity_pos sound.1) sound.1, sound.2⟩

/-- Looking a sound entry up time and again counts hits and uses the entry. -/
theorem lookup_iterate {c : ArtifactCache} {e : CacheEntry} (sound : c.Sound source e) (n : Nat) :
    (fun c => (c.lookup source).2)^[n + 1] c =
      { store := c.store.touch source
        counts := { c.counts with hits := c.counts.hits + (n + 1) } } := by
  induction n with
  | zero => exact congrArg Prod.snd (lookup_of_sound sound)
  | succ n ih =>
    rw [Function.iterate_succ_apply', ih]
    dsimp only
    rw [lookup_of_sound (sound.touch _), RecencyStore.touch_touch]
    rfl

theorem map_lookUp (c : ArtifactCache) (f : σ → τ) (hit : Artifact → σ) (absent corrupt : σ) :
    (c.lookUp source hit absent corrupt).map f =
      c.lookUp source (fun a => f (hit a)) (f absent) (f corrupt) := by
  unfold lookUp CacheMove.map
  cases (c.lookup source).1 <;> rfl

end ArtifactCache

namespace CacheTraffic

/-- The traffic after a turn. A call that cannot go on is passed over. -/
def turn (t : CacheTraffic) : CacheTurn → CacheTraffic
  | .getOrCompile source compile => t.begin (.getOrCompile source compile .arrived)
  | .get source => t.begin (.get source .arrived)
  | .step caller => (t.move? caller).getD t
  | .invalidate source => { t with cache := t.cache.invalidate source }
  | .clear => { t with cache := t.cache.clear }
  | .evict source => { t with cache := t.cache.evict source }
  | .damage source a => { t with cache := t.cache.damage source a }

/-- The traffic at a new cache after some turns. -/
def run (capacity : Nat) (turns : List CacheTurn) : CacheTraffic :=
  turns.foldl turn { cache := .empty capacity }

theorem turn_step (t : CacheTraffic) (caller : Nat) :
    t.turn (.step caller) = t ∨ t.move? caller = some (t.turn (.step caller)) := by
  cases moved : t.move? caller with
  | none => exact .inl (by rw [turn, moved, Option.getD_none])
  | some t' => exact .inr (by rw [turn, moved, Option.getD_some])

/-- What holds at a new cache and is kept by every turn holds after any turns. -/
theorem run_induction {p : CacheTraffic → Prop} {capacity : Nat}
    (start : p { cache := .empty capacity }) (keeps : ∀ t turn, p t → p (t.turn turn))
    (turns : List CacheTurn) : p (run capacity turns) := by
  induction turns using List.reverseRecOn with
  | nil => exact start
  | append_singleton turns turn ih =>
    rw [run, List.foldl_append]
    exact keeps _ turn ih

/-- One of the calls goes on. -/
def Goes (t t' : CacheTraffic) : Prop := ∃ caller, t.move? caller = some t'

/-- Calls at a cache can go on until they are at other stages and the cache is another one. -/
def ComesTo (c : ArtifactCache) (calls : List CacheCall) (c' : ArtifactCache)
    (calls' : List CacheCall) : Prop :=
  ∀ seen, ∃ seen', Relation.ReflTransGen Goes ⟨c, calls, seen⟩ ⟨c', calls', seen'⟩

variable {c c' c'' : ArtifactCache} {calls calls' calls'' before after : List CacheCall}
  {source : Fingerprint} {compile : Unit → Except CompileError Artifact}

theorem ComesTo.refl : ComesTo c calls c calls := fun seen => ⟨seen, .refl⟩

theorem ComesTo.trans (h : ComesTo c calls c' calls') (h' : ComesTo c' calls' c'' calls'') :
    ComesTo c calls c'' calls'' := by
  intro seen
  obtain ⟨seen', path⟩ := h seen
  obtain ⟨seen'', path'⟩ := h' seen'
  exact ⟨seen'', path.trans path'⟩

theorem comesTo_of_next? {call call' : CacheCall} {event? : Option CacheEvent}
    (next : call.next? (before ++ call :: after) c = some ⟨c', call', event?⟩) :
    ComesTo c (before ++ call :: after) c' (before ++ call' :: after) := by
  refine fun seen => ⟨seen ++ event?.toList, .single ⟨before.length, ?_⟩⟩
  simp [move?, next]

/-! ### Calls that come alone -/

open CacheCall (get getOrCompile)

/-- A look-up that nothing comes in between of does what `ArtifactCache.get` does. -/
theorem get_alone (c : ArtifactCache) (calls : List CacheCall) (source : Fingerprint) :
    ComesTo c (calls ++ [get source .arrived]) (c.get source).2
      (calls ++ [get source (.answered (c.get source).1)]) := by
  have looks : ComesTo c (calls ++ [get source .arrived]) (c.lookup source).2
      (calls ++ [get source (c.lookUp source (fun a => LookStage.answered (some a))
        (.answered none) .dropping).stage]) := comesTo_of_next? rfl
  obtain ⟨-, looked⟩ | ⟨e, -, -, looked⟩ | ⟨e, fault, -, -, looked⟩ := c.lookup_cases source
  · rw [ArtifactCache.lookUp, looked] at looks
    rw [ArtifactCache.get, looked]
    exact looks
  · rw [ArtifactCache.lookUp, looked] at looks
    rw [ArtifactCache.get, looked]
    exact looks
  · rw [ArtifactCache.lookUp, looked] at looks
    rw [ArtifactCache.get, looked]
    exact looks.trans (comesTo_of_next? rfl)

/-! ### Calls that come together -/

/-- Calls at the same stage go on one after the other, if each finds things as the next one needs
them. -/
theorem comesTo_replicate {call call' : CacheCall} (effect : ArtifactCache → ArtifactCache)
    (p : ArtifactCache → List CacheCall → Prop)
    (step : ∀ c before after, p c before →
      ComesTo c (before ++ call :: after) (effect c) (before ++ call' :: after) ∧
        p (effect c) (before ++ [call'])) (n : Nat) (start : p c before) :
    ComesTo c (before ++ List.replicate n call) (effect^[n] c)
      (before ++ List.replicate n call') := by
  induction n generalizing c before with
  | zero => exact .refl
  | succ n ih =>
    obtain ⟨first, next⟩ := step c before (List.replicate n call) start
    have rest := ih next
    rw [List.append_assoc, List.append_assoc] at rest
    exact first.trans rest

theorem findIdx?_append {l more : List CacheCall} {p : CacheCall → Bool} {i : Nat}
    (found : l.findIdx? p = some i) : (l ++ more).findIdx? p = some i := by
  rw [List.findIdx?_append, found]
  rfl

/-- Calls for a key that another call is compiling for wait for it. -/
theorem comesTo_waiting {leader : Nat} (compile : Unit → Except CompileError Artifact) (n : Nat)
    (missing : c.contains source = false)
    (leads : before.findIdx? (CacheCall.isCompilingFor source) = some leader) :
    ComesTo c (before ++ List.replicate n (getOrCompile source compile .arrived))
      c (before ++ List.replicate n (getOrCompile source compile (.waiting leader))) := by
  have each : ∀ c before after, c.contains source = false ∧
      before.findIdx? (CacheCall.isCompilingFor source) = some leader →
      ComesTo c (before ++ getOrCompile source compile .arrived :: after) (id c)
          (before ++ getOrCompile source compile (.waiting leader) :: after) ∧
        (id c).contains source = false ∧
          (before ++ [getOrCompile source compile (.waiting leader)]).findIdx?
            (CacheCall.isCompilingFor source) = some leader := by
    rintro c before after ⟨missing, leads⟩
    refine ⟨?_, missing, findIdx?_append leads⟩
    have looks : ComesTo c (before ++ getOrCompile source compile .arrived :: after) c
        (before ++ getOrCompile source compile .filling :: after) := by
      apply comesTo_of_next?
      simp only [CacheCall.next?, FillStage.next?, ArtifactCache.lookUp, ArtifactCache.lookup,
        ArtifactCache.contains_eq_false_iff.1 missing]
      rfl
    refine looks.trans ?_
    apply comesTo_of_next?
    simp only [CacheCall.next?, FillStage.next?, missing, findIdx?_append leads]
    rfl
  have all := comesTo_replicate id _ each n ⟨missing, leads⟩
  rwa [Function.iterate_id] at all

/-- Calls that wait share the answer of the one that they wait for. -/
theorem comesTo_shared {leader : Nat} {answer : CacheAnswer} (source : Fingerprint)
    (compile : Unit → Except CompileError Artifact) (n : Nat)
    (answered : before[leader]?.bind CacheCall.answer? = some answer) :
    ComesTo c (before ++ List.replicate n (getOrCompile source compile (.waiting leader)))
      (ArtifactCache.coalesce^[n] c) (before ++ List.replicate n
        (getOrCompile source compile (.answered { answer with compiled := false }))) := by
  refine comesTo_replicate _ (fun _ before => before[leader]?.bind CacheCall.answer? = some answer)
    (fun c before after answered => ?_) n answered
  have shared (more : List CacheCall) :
      (before ++ more)[leader]?.bind CacheCall.answer? = some answer := by
    obtain ⟨call, there, _⟩ := Option.bind_eq_some_iff.1 answered
    rw [List.getElem?_append_left (List.getElem?_eq_some_iff.1 there).1, answered]
  refine ⟨?_, shared _⟩
  apply comesTo_of_next?
  simp only [CacheCall.next?, FillStage.next?, shared]
  rfl

/-- Calls for a key that has a sound entry are served at once. -/
theorem comesTo_served {e : CacheEntry} (before : List CacheCall)
    (compile : Unit → Except CompileError Artifact) (n : Nat) (sound : c.Sound source e) :
    ComesTo c (before ++ List.replicate n (getOrCompile source compile .arrived))
      ((fun c => (c.lookup source).2)^[n] c) (before ++ List.replicate n
        (getOrCompile source compile (.answered ⟨.ok e.artifact, false⟩))) := by
  refine comesTo_replicate _ (fun c _ => c.Sound source e) (fun c before after sound => ⟨?_, ?_⟩) n
    sound
  · apply comesTo_of_next?
    simp only [CacheCall.next?, FillStage.next?, ArtifactCache.lookUp,
      ArtifactCache.lookup_of_sound sound]
    rfl
  · rw [ArtifactCache.lookup_of_sound sound]
    exact sound.touch _

/-- Of calls for a key that nothing is stored for, one compiles and the others share its answer. -/
theorem comesTo_filled (n : Nat) (missing : c.contains source = false)
    (nobody : calls.findIdx? (CacheCall.isCompilingFor source) = none) :
    ComesTo c (calls ++ getOrCompile source compile .filling ::
        List.replicate n (getOrCompile source compile .arrived))
      (ArtifactCache.coalesce^[n] (c.fill source compile).2)
      (calls ++ getOrCompile source compile (.answered (c.fill source compile).1) ::
        List.replicate n (getOrCompile source compile
          (.answered { (c.fill source compile).1 with compiled := false }))) := by
  have idle : (calls ++ getOrCompile source compile .filling ::
      List.replicate n (getOrCompile source compile .arrived)).findIdx?
        (CacheCall.isCompilingFor source) = none := by
    rw [List.findIdx?_eq_none_iff] at nobody ⊢
    simp only [List.mem_append, List.mem_cons, List.mem_replicate]
    rintro call (member | rfl | ⟨-, rfl⟩)
    · exact nobody call member
    · rfl
    · rfl
  have starts : ComesTo c (calls ++ getOrCompile source compile .filling ::
        List.replicate n (getOrCompile source compile .arrived)) c
      (calls ++ getOrCompile source compile .compiling ::
        List.replicate n (getOrCompile source compile .arrived)) := by
    apply comesTo_of_next?
    simp only [CacheCall.next?, FillStage.next?, missing, idle]
    rfl
  have leads : (calls ++ [getOrCompile source compile .compiling]).findIdx?
      (CacheCall.isCompilingFor source) = some calls.length := by
    rw [List.findIdx?_append, nobody]
    simp [CacheCall.isCompilingFor]
  have waits := comesTo_waiting compile n missing leads
  rw [← List.append_cons, ← List.append_cons] at waits
  have compiles : ComesTo c (calls ++ getOrCompile source compile .compiling ::
        List.replicate n (getOrCompile source compile (.waiting calls.length)))
      (c.fill source compile).2
      (calls ++ getOrCompile source compile (.answered (c.fill source compile).1) ::
        List.replicate n (getOrCompile source compile (.waiting calls.length))) :=
    comesTo_of_next? rfl
  have answered : (calls ++ [getOrCompile source compile
      (.answered (c.fill source compile).1)])[calls.length]?.bind CacheCall.answer? =
        some (c.fill source compile).1 := by
    simp [CacheCall.answer?]
  have shares := @comesTo_shared (c.fill source compile).2 _ _ _ source compile n answered
  rw [← List.append_cons, ← List.append_cons] at shares
  exact ((starts.trans waits).trans compiles).trans shares

theorem getTogether_of_sound {set : ConstraintSet} {e : CacheEntry}
    {compile : ConstraintSet → Except CompileError Artifact} (sound : c.Sound set.fingerprint e)
    (others : Nat) :
    c.getTogether set compile (others + 1) = (List.replicate (others + 1) ⟨.ok e.artifact, false⟩,
      (fun c => (c.lookup set.fingerprint).2)^[others + 1] c) := by
  have first : c.getOrCompile set compile =
      (⟨.ok e.artifact, false⟩, (c.lookup set.fingerprint).2) := by
    simp only [ArtifactCache.getOrCompile, ArtifactCache.lookup_of_sound sound]
  have hits : c.counts.hits + 1 + others = c.counts.hits + (others + 1) := by omega
  rw [ArtifactCache.lookup_iterate sound]
  simp only [ArtifactCache.getTogether, first, ArtifactCache.lookup_of_sound sound,
    Bool.false_eq_true, if_false, hits, List.replicate_succ]

theorem getTogether_of_fill {set : ConstraintSet}
    {compile : ConstraintSet → Except CompileError Artifact}
    (fills : c.getOrCompile set compile = c'.fill set.fingerprint fun _ => compile set)
    (missing : c'.contains set.fingerprint = false) (others : Nat) :
    c.getTogether set compile (others + 1) =
      ((c'.fill set.fingerprint fun _ => compile set).1 ::
          List.replicate others { (c'.fill set.fingerprint fun _ => compile set).1 with
            compiled := false },
        ArtifactCache.coalesce^[others] (c'.fill set.fingerprint fun _ => compile set).2) := by
  have compiled := ArtifactCache.compiled_of_fill (fun _ => compile set) missing
  simp only [ArtifactCache.getTogether, fills, compiled, if_true, ArtifactCache.coalesce_iterate]

/-- Calls for one key that all come before the first of them is answered get what
`ArtifactCache.getTogether` gives, unless a call that came before them is compiling for the key. -/
theorem together (c : ArtifactCache) (calls : List CacheCall) (set : ConstraintSet)
    (compile : ConstraintSet → Except CompileError Artifact) (requests : Nat)
    (nobody : calls.findIdx? (CacheCall.isCompilingFor set.fingerprint) = none) :
    ComesTo c
      (calls ++ List.replicate requests
        (getOrCompile set.fingerprint (fun _ => compile set) .arrived))
      (c.getTogether set compile requests).2
      (calls ++ (c.getTogether set compile requests).1.map fun answer =>
        getOrCompile set.fingerprint (fun _ => compile set) (.answered answer)) := by
  cases requests with
  | zero =>
    rw [ArtifactCache.getTogether, List.map_nil, List.replicate_zero]
    exact .refl
  | succ others =>
    have looks : ComesTo c
        (calls ++ getOrCompile set.fingerprint (fun _ => compile set) .arrived ::
          List.replicate others (getOrCompile set.fingerprint (fun _ => compile set) .arrived))
        (c.lookup set.fingerprint).2
        (calls ++ getOrCompile set.fingerprint (fun _ => compile set)
            (c.lookUp set.fingerprint (fun a => FillStage.answered ⟨.ok a, false⟩) .filling
              .dropping).stage ::
          List.replicate others (getOrCompile set.fingerprint (fun _ => compile set) .arrived)) :=
      comesTo_of_next? rfl
    obtain ⟨found, looked⟩ | ⟨e, found, sound, -⟩ | ⟨e, fault, found, failed, looked⟩ :=
      c.lookup_cases set.fingerprint
    · have missing := ArtifactCache.contains_eq_false_iff.2 found
      have fills : c.getOrCompile set compile = c.fill set.fingerprint fun _ => compile set := by
        simp only [ArtifactCache.getOrCompile, looked]
      rw [ArtifactCache.lookUp, looked] at looks
      rw [getTogether_of_fill fills missing, List.map_cons, List.map_replicate]
      exact looks.trans (comesTo_filled others missing nobody)
    · rw [getTogether_of_sound ⟨found, sound⟩, List.map_replicate]
      exact comesTo_served calls _ (others + 1) ⟨found, sound⟩
    · have missing : ((c.lookup set.fingerprint).2.invalidate set.fingerprint).contains
          set.fingerprint = false := by
        rw [ArtifactCache.contains_eq_false_iff, ArtifactCache.invalidate,
          RecencyStore.get?_erase, if_pos rfl]
      have fills : c.getOrCompile set compile =
          ((c.lookup set.fingerprint).2.invalidate set.fingerprint).fill set.fingerprint
            fun _ => compile set := by
        simp only [ArtifactCache.getOrCompile, looked]
      rw [ArtifactCache.lookUp, looked] at looks
      rw [getTogether_of_fill fills missing, List.map_cons, List.map_replicate]
      rw [looked] at missing ⊢
      have drops := looks.trans (comesTo_of_next? rfl)
      exact drops.trans (comesTo_filled others missing nobody)

/-- A call that nothing comes in between of does what `ArtifactCache.getOrCompile` does, unless one
that came before it is compiling for its key. -/
theorem getOrCompile_alone (c : ArtifactCache) (calls : List CacheCall) (set : ConstraintSet)
    (compile : ConstraintSet → Except CompileError Artifact)
    (nobody : calls.findIdx? (CacheCall.isCompilingFor set.fingerprint) = none) :
    ComesTo c (calls ++ [getOrCompile set.fingerprint (fun _ => compile set) .arrived])
      (c.getOrCompile set compile).2
      (calls ++ [getOrCompile set.fingerprint (fun _ => compile set)
        (.answered (c.getOrCompile set compile).1)]) := by
  have one : c.getTogether set compile 1 =
      ([(c.getOrCompile set compile).1], (c.getOrCompile set compile).2) := by
    simp only [ArtifactCache.getTogether, Nat.add_zero]
    split <;> rfl
  have answered := together c calls set compile 1 nobody
  rw [one] at answered
  exact answered

end CacheTraffic

/-! ### What a step of a call can be -/

namespace CacheCall

/-- The steps of calls, by what happens at them. -/
inductive Step (calls : List CacheCall) (c : ArtifactCache) :
    CacheCall → CacheMove CacheCall → Prop where
  | lookUp (source : Fingerprint) : Step calls c (.get source .arrived)
      (c.lookUp source (fun a => .get source (.answered (some a))) (.get source (.answered none))
        (.get source .dropping))
  | lookUpFirst (source : Fingerprint) (compile : Unit → Except CompileError Artifact) :
      Step calls c (.getOrCompile source compile .arrived)
        (c.lookUp source (fun a => .getOrCompile source compile (.answered ⟨.ok a, false⟩))
          (.getOrCompile source compile .filling) (.getOrCompile source compile .dropping))
  | drop (source : Fingerprint) : Step calls c (.get source .dropping)
      ⟨c.invalidate source, .get source (.answered none), none⟩
  | dropFirst (source : Fingerprint) (compile : Unit → Except CompileError Artifact) :
      Step calls c (.getOrCompile source compile .dropping)
        ⟨c.invalidate source, .getOrCompile source compile .filling, none⟩
  | take {source : Fingerprint} (compile : Unit → Except CompileError Artifact)
      (there : c.contains source = true) : Step calls c (.getOrCompile source compile .filling)
        ⟨(c.fill source compile).2,
          .getOrCompile source compile (.answered (c.fill source compile).1), none⟩
  | wait {source : Fingerprint} {leader : Nat} (compile : Unit → Except CompileError Artifact)
      (missing : c.contains source = false)
      (leads : calls.findIdx? (isCompilingFor source) = some leader) :
      Step calls c (.getOrCompile source compile .filling)
        ⟨c, .getOrCompile source compile (.waiting leader), none⟩
  | start {source : Fingerprint} (compile : Unit → Except CompileError Artifact)
      (missing : c.contains source = false)
      (nobody : calls.findIdx? (isCompilingFor source) = none) :
      Step calls c (.getOrCompile source compile .filling)
        ⟨c, .getOrCompile source compile .compiling, some (.compile source)⟩
  | compile (source : Fingerprint) (compile : Unit → Except CompileError Artifact) :
      Step calls c (.getOrCompile source compile .compiling)
        ⟨(c.fill source compile).2,
          .getOrCompile source compile (.answered (c.fill source compile).1), none⟩
  | share {leader : Nat} {answer : CacheAnswer} (source : Fingerprint)
      (compile : Unit → Except CompileError Artifact)
      (answered : calls[leader]?.bind answer? = some answer) :
      Step calls c (.getOrCompile source compile (.waiting leader))
        ⟨c.coalesce, .getOrCompile source compile (.answered { answer with compiled := false }),
          none⟩

variable {calls : List CacheCall} {c : ArtifactCache} {call : CacheCall} {m : CacheMove CacheCall}

theorem step_of_next? (next : call.next? calls c = some m) : Step calls c call m := by
  cases call with
  | get source stage =>
    cases stage with
    | arrived =>
      obtain rfl := Option.some.inj next
      rw [ArtifactCache.map_lookUp]
      exact .lookUp source
    | dropping =>
      cases next
      exact .drop source
    | answered artifact => cases next
  | getOrCompile source compile stage =>
    cases stage with
    | arrived =>
      obtain rfl := Option.some.inj next
      rw [ArtifactCache.map_lookUp]
      exact .lookUpFirst source compile
    | dropping =>
      cases next
      exact .dropFirst source compile
    | filling =>
      simp only [next?, FillStage.next?] at next
      split at next
      · next there =>
        cases next
        exact .take compile there
      · next missing =>
        rw [Bool.not_eq_true] at missing
        split at next
        · next leads =>
          cases next
          exact .wait compile missing leads
        · next nobody =>
          cases next
          exact .start compile missing nobody
    | compiling =>
      cases next
      exact .compile source compile
    | waiting leader =>
      simp only [next?, FillStage.next?, Option.map_map] at next
      obtain ⟨answer, answered, rfl⟩ := Option.map_eq_some_iff.1 next
      exact .share source compile answered
    | answered answer => cases next

/-! ### Calls can always go on -/

/-- Whether a call is compiling. -/
def isCompiling : CacheCall → Bool
  | .getOrCompile _ _ .compiling => true
  | _ => false

/-- How many steps are left for a call at most, until it returns. -/
def stepsLeft : CacheCall → Nat
  | .getOrCompile _ _ .arrived => 4
  | .getOrCompile _ _ .dropping => 3
  | .getOrCompile _ _ .filling => 2
  | .getOrCompile _ _ .compiling => 1
  | .getOrCompile _ _ (.waiting _) => 1
  | .getOrCompile _ _ (.answered _) => 0
  | .get _ .arrived => 2
  | .get _ .dropping => 1
  | .get _ (.answered _) => 0

theorem Step.stepsLeft_lt (step : Step calls c call m) : m.stage.stepsLeft < call.stepsLeft := by
  cases step with
  | lookUp source | lookUpFirst source compile =>
    rw [ArtifactCache.lookUp]
    cases (c.lookup source).1 <;> simp [stepsLeft]
  | _ => simp [stepsLeft]

theorem isCompiling_iff :
    call.isCompiling = true ↔ ∃ source compile, call = .getOrCompile source compile .compiling := by
  constructor
  · intro compiling
    unfold isCompiling at compiling
    split at compiling
    · exact ⟨_, _, rfl⟩
    · cases compiling
  · rintro ⟨source, compile, rfl⟩
    rfl

theorem isCompilingFor_of_idle (idle : call.isCompiling = false) (key : Fingerprint) :
    call.isCompilingFor key = false := by
  unfold isCompilingFor
  split
  · simp [isCompiling] at idle
  · rfl

/-- A call that is compiling has its answer after its next step. -/
theorem Step.exists_answer (step : Step calls c call m)
    (ready : call.isCompiling = true ∨ ∃ answer, call.answer? = some answer) :
    ∃ answer, m.stage.answer? = some answer := by
  obtain compiling | ⟨answer, answered⟩ := ready
  · cases step with
    | compile source compile => exact ⟨_, rfl⟩
    | _ => cases compiling
  · cases step <;> cases answered

/-- A call begins to wait for one that is compiling. -/
theorem Step.exists_leader {source : Fingerprint} {compile : Unit → Except CompileError Artifact}
    {leader : Nat} (step : Step calls c call m)
    (waits : m.stage = .getOrCompile source compile (.waiting leader)) :
    call.isCompiling = false ∧ ∃ other, calls[leader]? = some other ∧ other.isCompiling = true := by
  cases step with
  | lookUp source | lookUpFirst source compile =>
    rw [ArtifactCache.lookUp] at waits
    cases looked : (c.lookup source).1 <;> simp [looked] at waits
  | wait compile missing leads =>
    cases waits
    obtain ⟨inside, found, -⟩ := List.findIdx?_eq_some_iff_getElem.1 leads
    refine ⟨rfl, _, List.getElem?_eq_getElem inside, ?_⟩
    cases compiling : calls[leader].isCompiling with
    | true => rfl
    | false => cases (isCompilingFor_of_idle compiling source).symm.trans found
  | _ => cases waits

theorem exists_next? (open_ : call.hasReturned = false)
    (ready : ∀ source compile leader, call = .getOrCompile source compile (.waiting leader) →
      ∃ answer, calls[leader]?.bind answer? = some answer) : ∃ m, call.next? calls c = some m := by
  cases call with
  | get source stage =>
    cases stage with
    | arrived | dropping => exact ⟨_, rfl⟩
    | answered artifact => cases open_
  | getOrCompile source compile stage =>
    cases stage with
    | arrived | dropping | compiling => exact ⟨_, rfl⟩
    | filling =>
      simp only [next?, FillStage.next?]
      split
      · exact ⟨_, rfl⟩
      · split <;> exact ⟨_, rfl⟩
    | waiting leader =>
      obtain ⟨answer, answered⟩ := ready source compile leader rfl
      simp only [next?, FillStage.next?, answered]
      exact ⟨_, rfl⟩
    | answered answer => cases open_

end CacheCall

namespace CacheTraffic

variable {t t' : CacheTraffic} {caller : Nat}

/-- All calls have returned. -/
def Returned (t : CacheTraffic) : Prop := ∀ call ∈ t.calls, call.hasReturned = true

instance : DecidablePred Returned := fun t =>
  inferInstanceAs (Decidable (∀ call ∈ t.calls, call.hasReturned = true))

/-- Calls wait only for one that is compiling or has its answer. -/
def Led (calls : List CacheCall) : Prop :=
  ∀ source compile leader, CacheCall.getOrCompile source compile (.waiting leader) ∈ calls →
    ∃ other, calls[leader]? = some other ∧
      (other.isCompiling = true ∨ ∃ answer, other.answer? = some answer)

theorem exists_of_move? (moved : t.move? caller = some t') :
    ∃ call m, t.calls[caller]? = some call ∧ CacheCall.Step t.calls t.cache call m ∧
      t' = ⟨m.cache, t.calls.set caller m.stage, t.seen ++ m.event?.toList⟩ := by
  obtain ⟨call, here, rest⟩ := Option.bind_eq_some_iff.1 moved
  obtain ⟨m, next, same⟩ := Option.bind_eq_some_iff.1 rest
  exact ⟨call, m, here, CacheCall.step_of_next? next, (Option.some.inj same).symm⟩

theorem Led.move (led : Led t.calls) (moved : t.move? caller = some t') : Led t'.calls := by
  obtain ⟨call, m, here, step, rfl⟩ := exists_of_move? moved
  have inside := (List.getElem?_eq_some_iff.1 here).1
  intro source compile leader member
  obtain earlier | begins := List.mem_or_eq_of_mem_set member
  · obtain ⟨other, there, ready⟩ := led source compile leader earlier
    by_cases own : caller = leader
    · subst own
      cases here.symm.trans there
      exact ⟨m.stage, List.getElem?_set_self inside, .inr (step.exists_answer ready)⟩
    · exact ⟨other, (List.getElem?_set_ne own).trans there, ready⟩
  · obtain ⟨idle, other, there, compiling⟩ := step.exists_leader begins.symm
    have others : caller ≠ leader := by
      rintro rfl
      cases here.symm.trans there
      cases idle.symm.trans compiling
    exact ⟨other, (List.getElem?_set_ne others).trans there, .inl compiling⟩

theorem Led.begin (led : Led t.calls) {call : CacheCall}
    (new : ∀ source compile leader, call ≠ .getOrCompile source compile (.waiting leader)) :
    Led (t.begin call).calls := by
  intro source compile leader member
  obtain earlier | last := List.mem_append.1 member
  · obtain ⟨other, there, ready⟩ := led source compile leader earlier
    have inside := (List.getElem?_eq_some_iff.1 there).1
    exact ⟨other, (List.getElem?_append_left inside).trans there, ready⟩
  · exact absurd (List.mem_singleton.1 last).symm (new source compile leader)

theorem Led.turn (led : Led t.calls) (turn : CacheTurn) : Led (t.turn turn).calls := by
  cases turn with
  | getOrCompile source compile => exact led.begin nofun
  | get source => exact led.begin nofun
  | step caller =>
    obtain same | moved := t.turn_step caller
    · rwa [same]
    · exact led.move moved
  | _ => exact led

theorem led_run (capacity : Nat) (turns : List CacheTurn) : Led (run capacity turns).calls :=
  run_induction (p := fun t => Led t.calls) (fun _ _ _ member => absurd member List.not_mem_nil)
    (fun _ turn led => led.turn turn) turns

theorem exists_move?_of_next? {call : CacheCall} (here : t.calls[caller]? = some call)
    {m : CacheMove CacheCall} (next : call.next? t.calls t.cache = some m) :
    ∃ t', t.move? caller = some t' :=
  ⟨_, by simp [move?, here, next]; rfl⟩

/-- While a call has not returned, some call can go on: the call itself, or the one that it waits
for. -/
theorem Led.exists_move? (led : Led t.calls) (open_ : ¬ t.Returned) :
    ∃ caller t', t.move? caller = some t' := by
  simp only [Returned, not_forall, Bool.not_eq_true] at open_
  obtain ⟨call, member, open_⟩ := open_
  obtain ⟨caller, here⟩ := List.mem_iff_getElem?.1 member
  by_cases held : ∃ source compile leader other,
      call = .getOrCompile source compile (.waiting leader) ∧ t.calls[leader]? = some other ∧
        other.isCompiling = true
  · obtain ⟨_, _, leader, other, -, there, compiling⟩ := held
    obtain ⟨source, compile, rfl⟩ := CacheCall.isCompiling_iff.1 compiling
    exact ⟨leader, exists_move?_of_next? there rfl⟩
  · have ready : ∀ source compile leader, call = .getOrCompile source compile (.waiting leader) →
        ∃ answer, t.calls[leader]?.bind CacheCall.answer? = some answer := by
      rintro source compile leader rfl
      obtain ⟨other, there, compiling | ⟨answer, answered⟩⟩ := led source compile leader member
      · exact absurd ⟨source, compile, leader, other, rfl, there, compiling⟩ held
      · exact ⟨answer, by rw [there]; exact answered⟩
    obtain ⟨m, next⟩ := CacheCall.exists_next? (c := t.cache) open_ ready
    exact ⟨caller, exists_move?_of_next? here next⟩

theorem Led.exists_returned (led : Led t.calls) :
    ∃ callers : List Nat, ((callers.map CacheTurn.step).foldl CacheTraffic.turn t).Returned := by
  generalize left : (t.calls.map CacheCall.stepsLeft).sum = n
  induction n using Nat.strong_induction_on generalizing t with
  | _ n ih =>
    subst left
    by_cases done : t.Returned
    · exact ⟨[], done⟩
    · obtain ⟨caller, t', moved⟩ := led.exists_move? done
      have less :
          (t'.calls.map CacheCall.stepsLeft).sum < (t.calls.map CacheCall.stepsLeft).sum := by
        obtain ⟨call, m, here, step, rfl⟩ := exists_of_move? moved
        have traded := sum_map_set CacheCall.stepsLeft here m.stage
        have := step.stepsLeft_lt
        dsimp only
        omega
      obtain ⟨callers, returned⟩ := ih _ less (led.move moved) rfl
      refine ⟨caller :: callers, ?_⟩
      rw [List.map_cons, List.foldl_cons, CacheTraffic.turn, moved]
      exact returned

/-- No call waits for ever: after any turns the calls can go on until all have returned. -/
theorem exists_returned (capacity : Nat) (turns : List CacheTurn) :
    ∃ callers : List Nat, (run capacity (turns ++ callers.map .step)).Returned := by
  obtain ⟨callers, returned⟩ := (led_run capacity turns).exists_returned
  refine ⟨callers, ?_⟩
  rw [run, List.foldl_append]
  exact returned

end CacheTraffic

end GuidedDecoding
