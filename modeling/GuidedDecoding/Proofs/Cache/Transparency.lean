import GuidedDecoding.Cache.Basic
import GuidedDecoding.Proofs.Artifact.Written
import GuidedDecoding.Proofs.Compilation.Stages
import GuidedDecoding.Proofs.Constraint.Content
import Mathlib.Data.List.Induction

/-!
# A cache that cannot be noticed

A compiler that works through a cache answers every request as it would without the cache, whatever
has happened to the cache before: requests for other sets, look-ups, entries that were dropped or
pushed out, and artifacts that were damaged in the store while their digests stayed
(`ArtifactCache.run_transparent`).

Fingerprints and digests are hashes, so this is said of runs in which no two contents that are
hashed share a hash. It rests on contents determining sets and artifacts, which is shown with their
written forms, and on one invariant: every entry belongs to a set that was requested and has the
digest of what the set compiles to.
-/

namespace GuidedDecoding

namespace RecencyStore

variable {κ α : Type} [DecidableEq κ] {s : RecencyStore κ α} {key other : κ} {value kept : α}

/-- The store with the entry of a key changed where it stands, if there is one. -/
def alter (s : RecencyStore κ α) (key : κ) (f : α → α) : RecencyStore κ α where
  capacity := s.capacity
  entries := s.entries.map fun e => (e.1, if e.1 = key then f e.2 else e.2)
  distinct := by
    rw [List.map_map]
    exact s.distinct
  bounded := by
    rw [List.length_map]
    exact s.bounded

theorem get?_alter (s : RecencyStore κ α) (key other : κ) (f : α → α) :
    (s.alter key f).get? other = (s.get? other).map fun v => if other = key then f v else v := by
  simp only [get?, alter, List.find?_map, Option.map_map, Function.comp_def]
  cases found : s.entries.find? fun e => decide (e.1 = other) with
  | none => rfl
  | some e =>
    have same : e.1 = other := by simpa using List.find?_some found
    simp [same]

theorem eq_of_get?_put_self (h : (s.put key value).get? key = some kept) : kept = value := by
  obtain ⟨e, found, rfl⟩ := Option.map_eq_some_iff.1 h
  have found := (List.take_prefix _ _).find?_eq_some found
  rw [List.find?_cons_of_pos (by simp)] at found
  cases found
  rfl

/-- Using an entry changes no entry. -/
theorem get?_of_get?_touch (h : (s.touch key).get? other = some kept) :
    s.get? other = some kept := by
  simp only [touch] at h
  split at h
  · next value found =>
    by_cases same : key = other
    · subst same
      rw [found, eq_of_get?_put_self h]
    · exact get?_of_get?_put same h
  · exact h

theorem get?_touch_self (room : 0 < s.capacity) (h : s.get? key = some value) :
    (s.touch key).get? key = some value := by
  rw [touch, h]
  exact s.get?_put_self key value room

end RecencyStore

namespace ConstraintSet

variable {config : CompilerConfig} {set : ConstraintSet} {a : Artifact}

/-- What compiles has finite confidences. -/
theorem finite_of_compile [RegexLibrary] (h : set.compile config = .ok a) :
    ∀ c ∈ set.members, Double.biased c.confidence ≠ 2047 := by
  intro c member
  obtain ⟨g, r, rfl, -, -⟩ := compile_eq_ok_iff.1 h
  exact Constraint.finite_of_fault?_eq_none (ConstraintGraph.fault?_eq_none member)

end ConstraintSet

/-- What can happen to a cache that one compiler works through. Any entry can be pushed out at any
time, and the artifact of an entry can be damaged while the digest beside it stays. -/
inductive CacheStep where
  | request (set : ConstraintSet)
  | get (source : Fingerprint)
  | invalidate (source : Fingerprint)
  | clear
  | evict (source : Fingerprint)
  | damage (source : Fingerprint) (artifact : Artifact)

namespace CacheStep

/-- The set that a step requests. -/
def requested? : CacheStep → Option ConstraintSet
  | .request set => some set
  | _ => none

/-- What is hashed on account of a step. -/
def contents [RegexLibrary] (config : CompilerConfig) : CacheStep → List (List UInt8)
  | .request set =>
    set.content ::
      match set.compile config with
      | .ok a => [a.digestContent]
      | .error _ => []
  | .damage _ a => [a.digestContent]
  | _ => []

end CacheStep

/-- The sets that are requested in some steps. -/
def requestedIn (steps : List CacheStep) : List ConstraintSet :=
  steps.filterMap CacheStep.requested?

/-- All contents that are hashed in a run have different hashes. -/
def CollisionFree [RegexLibrary] (config : CompilerConfig) (steps : List CacheStep) : Prop :=
  ∀ x ∈ steps.flatMap (CacheStep.contents config),
    ∀ y ∈ steps.flatMap (CacheStep.contents config), Blake3.hash x = Blake3.hash y → x = y

namespace ArtifactCache

/-- Put another artifact in the place of one that is stored, and leave its digest. -/
def damage (c : ArtifactCache) (source : Fingerprint) (a : Artifact) : ArtifactCache :=
  { c with store := c.store.alter source fun e => { e with artifact := a } }

/-- Push an entry out, if it is there. -/
def evict (c : ArtifactCache) (source : Fingerprint) : ArtifactCache where
  store := c.store.erase source
  counts := { c.counts with evictions := c.counts.evictions + (c.contains source).toNat }

/-- The cache after a step. -/
def step [RegexLibrary] (config : CompilerConfig) (c : ArtifactCache) : CacheStep → ArtifactCache
  | .request set => (c.getOrCompile set (ConstraintSet.compile config)).2
  | .get source => (c.get source).2
  | .invalidate source => c.invalidate source
  | .clear => c.clear
  | .evict source => c.evict source
  | .damage source a => c.damage source a

/-- The cache after some steps. -/
def run [RegexLibrary] (config : CompilerConfig) (capacity : Nat) (steps : List CacheStep) :
    ArtifactCache :=
  steps.foldl (step config) (.empty capacity)

/-- A sound entry for a key. -/
def Sound (c : ArtifactCache) (source : Fingerprint) (e : CacheEntry) : Prop :=
  c.store.get? source = some e ∧ e.fault? source = none

end ArtifactCache

theorem CacheEntry.fault?_eq_none_iff {e : CacheEntry} {source : Fingerprint} :
    e.fault? source = none ↔ e.artifact.source = source ∧ e.artifact.digest = e.checksum := by
  simp only [CacheEntry.fault?]
  split
  · next other => simp [other]
  · next same =>
    split
    · next differ => simp [differ]
    · next equal => simp_all

namespace ArtifactCache

variable {config : CompilerConfig} {capacity : Nat} {c : ArtifactCache} {set : ConstraintSet}
  {source other : Fingerprint} {e : CacheEntry} {a : Artifact} {steps : List CacheStep}
  {compile : ConstraintSet → Except CompileError Artifact}

/-- A look-up answers a sound entry, and else nothing; it changes no entry that it leaves. -/
theorem get_spec (c : ArtifactCache) (source : Fingerprint) :
    (∀ a, (c.get source).1 = some a → ∃ e, c.Sound source e ∧ e.artifact = a) ∧
      ∀ other e, (c.get source).2.store.get? other = some e → c.store.get? other = some e := by
  cases found : c.store.get? source with
  | none => simp [get, lookup, found]
  | some e =>
    cases fault : e.fault? source with
    | none =>
      simp only [get, lookup, found, fault, Option.some.injEq]
      exact ⟨fun a same => ⟨e, ⟨found, fault⟩, same⟩, fun _ _ => RecencyStore.get?_of_get?_touch⟩
    | some fault =>
      simp only [get, lookup, found, fault, invalidate, RecencyStore.get?_erase]
      refine ⟨nofun, fun other e kept => ?_⟩
      split at kept
      · cases kept
      · exact kept

/-- A request is answered by a sound entry, or else by the compiler. -/
theorem getOrCompile_cases (c : ArtifactCache) (set : ConstraintSet)
    (compile : ConstraintSet → Except CompileError Artifact) :
    (∃ e, c.Sound set.fingerprint e ∧ (c.getOrCompile set compile).1.result = .ok e.artifact ∧
      (c.getOrCompile set compile).2.store = c.store.touch set.fingerprint) ∨
    ((c.getOrCompile set compile).1.result = compile set ∧
      ∃ rest : RecencyStore Fingerprint CacheEntry, rest.capacity = c.store.capacity ∧
        rest.get? set.fingerprint = none ∧
        (∀ other e, rest.get? other = some e → c.store.get? other = some e) ∧
        (c.getOrCompile set compile).2.store =
          match compile set with
          | .ok a => rest.put set.fingerprint (.ofArtifact a)
          | .error _ => rest) := by
  cases found : c.store.get? set.fingerprint with
  | none =>
    refine .inr ⟨?_, c.store, rfl, found, fun _ _ => id, ?_⟩ <;>
      simp only [getOrCompile, lookup, found, fill] <;> cases compile set <;> rfl
  | some e =>
    cases fault : e.fault? set.fingerprint with
    | none =>
      refine .inl ⟨e, ⟨found, fault⟩, ?_, ?_⟩ <;> simp only [getOrCompile, lookup, found, fault]
    | some reason =>
      have gone : (c.store.erase set.fingerprint).get? set.fingerprint = none := by
        rw [RecencyStore.get?_erase, if_pos rfl]
      refine .inr ⟨?_, c.store.erase set.fingerprint, rfl, gone, fun other e kept => ?_, ?_⟩
      · simp only [getOrCompile, lookup, found, fault, invalidate, fill, gone]
        cases compile set <;> rfl
      · rw [RecencyStore.get?_erase] at kept
        split at kept
        · cases kept
        · exact kept
      · simp only [getOrCompile, lookup, found, fault, invalidate, fill, gone]
        cases compile set <;> rfl

/-- A sound entry is answered without compiling. -/
theorem getOrCompile_of_sound (h : c.Sound set.fingerprint e) :
    (c.getOrCompile set compile).1 = ⟨.ok e.artifact, false⟩ := by
  obtain ⟨found, sound⟩ := h
  simp only [getOrCompile, lookup, found, sound]

theorem mem_requestedIn_iff : set ∈ requestedIn steps ↔ .request set ∈ steps := by
  rw [requestedIn, List.mem_filterMap]
  constructor
  · rintro ⟨s, member, same⟩
    cases s <;> cases same
    exact member
  · exact fun member => ⟨_, member, rfl⟩

section

variable [RegexLibrary]

/-- A set that compiles is not compiled again when it is requested once more. -/
theorem not_compiled_again (room : 0 < c.store.capacity) (compiled : set.compile config = .ok a) :
    (((c.getOrCompile set (ConstraintSet.compile config)).2).getOrCompile set
      (ConstraintSet.compile config)).1.compiled = false := by
  suffices sound : ∃ e, (c.getOrCompile set (ConstraintSet.compile config)).2.Sound
      set.fingerprint e by
    obtain ⟨e, sound⟩ := sound
    rw [getOrCompile_of_sound sound]
  rcases c.getOrCompile_cases set (ConstraintSet.compile config) with
    ⟨e, ⟨found, sound⟩, -, store⟩ | ⟨-, rest, same, -, -, store⟩
  · refine ⟨e, ?_, sound⟩
    rw [store]
    exact RecencyStore.get?_touch_self room found
  · refine ⟨.ofArtifact a, ?_, ?_⟩
    · rw [store, compiled]
      exact rest.get?_put_self _ _ (same ▸ room)
    · exact CacheEntry.fault?_eq_none_iff.2 ⟨ConstraintSet.source_of_compile compiled, rfl⟩

/-- Where an entry comes from: it was there before the step, or the step compiled its set, or the
step damaged it. -/
theorem origin_of_step {s : CacheStep} (h : (c.step config s).store.get? source = some e) :
    c.store.get? source = some e ∨
      (∃ set a, s = .request set ∧ set.fingerprint = source ∧ set.compile config = .ok a ∧
        e = .ofArtifact a) ∨
      ∃ old a, s = .damage source a ∧ c.store.get? source = some old ∧
        e = { old with artifact := a } := by
  cases s with
  | request set =>
    simp only [step] at h
    rcases c.getOrCompile_cases set (ConstraintSet.compile config) with
      ⟨_, _, _, store⟩ | ⟨_, rest, _, _, kept, store⟩
    · rw [store] at h
      exact .inl (RecencyStore.get?_of_get?_touch h)
    · rw [store] at h
      split at h
      · next a compiled =>
        by_cases same : set.fingerprint = source
        · subst same
          exact .inr (.inl ⟨set, a, rfl, rfl, compiled, RecencyStore.eq_of_get?_put_self h⟩)
        · exact .inl (kept _ _ (RecencyStore.get?_of_get?_put same h))
      · exact .inl (kept _ _ h)
  | get other => exact .inl ((c.get_spec other).2 source e h)
  | invalidate other =>
    simp only [step, invalidate, RecencyStore.get?_erase] at h
    split at h
    · cases h
    · exact .inl h
  | clear => cases h
  | evict other =>
    simp only [step, evict, RecencyStore.get?_erase] at h
    split at h
    · cases h
    · exact .inl h
  | damage other a =>
    simp only [step, damage, RecencyStore.get?_alter] at h
    obtain ⟨old, found, rfl⟩ := Option.map_eq_some_iff.1 h
    by_cases same : source = other
    · subst same
      exact .inr (.inr ⟨old, a, rfl, found, if_pos rfl⟩)
    · rw [if_neg same]
      exact .inl found

/-- An entry belongs to a set that was requested, has the digest of what the set compiles to, and
holds an artifact that was compiled or put there by damage. -/
structure Belongs (config : CompilerConfig) (steps : List CacheStep) (source : Fingerprint)
    (e : CacheEntry) : Prop where
  requested : ∃ set ∈ requestedIn steps, set.fingerprint = source ∧
    ∃ a, set.compile config = .ok a ∧ e.checksum = a.digest
  hashed : e.artifact.digestContent ∈ steps.flatMap (CacheStep.contents config)

theorem Belongs.append (more : List CacheStep) (h : Belongs config steps source e) :
    Belongs config (steps ++ more) source e := by
  obtain ⟨⟨set, member, rest⟩, hashed⟩ := h
  refine ⟨⟨set, ?_, rest⟩, ?_⟩
  · rw [requestedIn, List.filterMap_append]
    exact List.mem_append_left _ member
  · rw [List.flatMap_append]
    exact List.mem_append_left _ hashed

theorem content_mem (h : set ∈ requestedIn steps) :
    set.content ∈ steps.flatMap (CacheStep.contents config) :=
  List.mem_flatMap.2 ⟨_, mem_requestedIn_iff.1 h, List.mem_cons_self⟩

theorem digestContent_mem (h : set ∈ requestedIn steps) (compiled : set.compile config = .ok a) :
    a.digestContent ∈ steps.flatMap (CacheStep.contents config) := by
  refine List.mem_flatMap.2 ⟨_, mem_requestedIn_iff.1 h, List.mem_cons_of_mem _ ?_⟩
  rw [compiled]
  exact List.mem_singleton_self _

/-- Every entry belongs to a set that was requested, after whatever steps. -/
theorem belongs_of_run (h : (run config capacity steps).store.get? source = some e) :
    Belongs config steps source e := by
  induction steps using List.reverseRecOn generalizing e with
  | nil => cases h
  | append_singleton steps s ih =>
    rw [run, List.foldl_append] at h
    rcases origin_of_step h with
      before | ⟨set, a, rfl, same, compiled, rfl⟩ | ⟨old, a, rfl, before, rfl⟩
    · exact (ih before).append _
    · have member : set ∈ requestedIn (steps ++ [.request set]) :=
        mem_requestedIn_iff.2 (List.mem_append_right _ List.mem_cons_self)
      exact ⟨⟨set, member, same, a, compiled, rfl⟩, digestContent_mem member compiled⟩
    · refine ⟨((ih before).append _).requested, ?_⟩
      refine List.mem_flatMap.2 ⟨.damage source a, ?_, List.mem_cons_self⟩
      exact List.mem_append_right _ List.mem_cons_self

end

end ArtifactCache

namespace CollisionFree

variable [RegexLibrary] {config : CompilerConfig} {steps : List CacheStep} {source : Fingerprint}
  {e : CacheEntry} {set other : ConstraintSet} {a : Artifact}

theorem of_sublist {some : List CacheStep} (free : CollisionFree config steps)
    (within : some.Sublist steps) : CollisionFree config some := by
  have subset : ∀ x ∈ some.flatMap (CacheStep.contents config),
      x ∈ steps.flatMap (CacheStep.contents config) := by
    intro x hx
    obtain ⟨s, member, content⟩ := List.mem_flatMap.1 hx
    exact List.mem_flatMap.2 ⟨s, within.subset member, content⟩
  exact fun x hx y hy => free x (subset x hx) y (subset y hy)

/-- Contents from a list whose hashes all differ. -/
theorem of_nodup {contents : List (List UInt8)} (distinct : (contents.map Blake3.hash).Nodup)
    (within : ∀ x ∈ steps.flatMap (CacheStep.contents config), x ∈ contents) :
    CollisionFree config steps :=
  fun x hx y hy same => List.inj_on_of_nodup_map distinct (within x hx) (within y hy) same

/-- Requested sets with one fingerprint are the same, if one of them compiles. -/
theorem set_eq (free : CollisionFree config steps) (hs : set ∈ requestedIn steps)
    (ho : other ∈ requestedIn steps) (compiled : set.compile config = .ok a)
    (same : set.fingerprint = other.fingerprint) : set = other :=
  ConstraintSet.eq_of_content_eq (ConstraintSet.finite_of_compile compiled)
    (free _ (ArtifactCache.content_mem hs) _ (ArtifactCache.content_mem ho)
      (Fingerprint.ofContent_eq_iff.1 same))

/-- A sound entry holds what a requested set of its key compiles to. -/
theorem compile_of_sound (free : CollisionFree config steps)
    (belongs : ArtifactCache.Belongs config steps source e) (sound : e.fault? source = none) :
    ∃ set ∈ requestedIn steps, set.fingerprint = source ∧ set.compile config = .ok e.artifact := by
  obtain ⟨⟨set, member, key, a, compiled, checksum⟩, hashed⟩ := belongs
  have digests : e.artifact.digest = a.digest :=
    ((CacheEntry.fault?_eq_none_iff.1 sound).2).trans checksum
  have contents := free _ hashed _ (ArtifactCache.digestContent_mem member compiled)
    (Fingerprint.ofContent_eq_iff.1 digests)
  rw [Artifact.eq_of_digestContent_eq contents]
  exact ⟨set, member, key, compiled⟩

end CollisionFree

namespace ArtifactCache

/-- What a step shows of a cache through which some sets were requested before. A request gets what
the compiler gives, and leaves no entry if the set does not compile. A look-up finds nothing but
what the compiler gives for the requested set of its key. -/
def Shows [RegexLibrary] (config : CompilerConfig) (requested : List ConstraintSet)
    (c : ArtifactCache) : CacheStep → Prop
  | .request set =>
    (c.getOrCompile set (ConstraintSet.compile config)).1.result = set.compile config ∧
      ∀ fault, set.compile config = .error fault →
        (c.getOrCompile set (ConstraintSet.compile config)).2.contains set.fingerprint = false
  | .get source =>
    ∀ a, (c.get source).1 = some a →
      (∃ set ∈ requested, set.fingerprint = source) ∧
        ∀ set ∈ requested, set.fingerprint = source → set.compile config = .ok a
  | _ => True

variable {config : CompilerConfig} {capacity : Nat}

/-- Whatever has happened to a cache, requests get what the compiler gives, look-ups find nothing
else, and sets that do not compile have no entry. -/
theorem run_transparent [RegexLibrary] {steps before after : List CacheStep} {s : CacheStep}
    (free : CollisionFree config steps) (split : steps = before ++ s :: after) :
    Shows config (requestedIn before) (run config capacity before) s := by
  subst split
  cases s with
  | request set =>
    have free : CollisionFree config (before ++ [.request set]) :=
      free.of_sublist ((List.Sublist.refl before).append (by simp))
    have here : set ∈ requestedIn (before ++ [.request set]) :=
      mem_requestedIn_iff.2 (List.mem_append_right _ List.mem_cons_self)
    rcases (run config capacity before).getOrCompile_cases set (ConstraintSet.compile config) with
      ⟨e, ⟨found, sound⟩, result, -⟩ | ⟨result, rest, -, gone, -, store⟩
    · obtain ⟨first, member, key, compiled⟩ :=
        free.compile_of_sound ((belongs_of_run found).append _) sound
      have same := free.set_eq member here compiled key
      rw [same] at compiled
      refine ⟨result.trans compiled.symm, fun fault failed => ?_⟩
      rw [failed] at compiled
      cases compiled
    · refine ⟨result, fun fault failed => ?_⟩
      rw [failed] at store
      rw [contains, RecencyStore.contains, store, gone]
      rfl
  | get source =>
    have free : CollisionFree config before := free.of_sublist (List.sublist_append_left _ _)
    intro a answer
    obtain ⟨e, ⟨found, sound⟩, rfl⟩ := ((run config capacity before).get_spec source).1 a answer
    obtain ⟨first, member, key, compiled⟩ := free.compile_of_sound (belongs_of_run found) sound
    refine ⟨⟨first, member, key⟩, fun set requested same => ?_⟩
    rw [← free.set_eq member requested compiled (key.trans same.symm)]
    exact compiled
  | invalidate => trivial
  | clear => trivial
  | evict => trivial
  | damage => trivial

/-- The key of the set without members. -/
def emptyKey : Fingerprint := ConstraintSet.empty.fingerprint

/-- The set without members is requested and looked up again after its artifact was damaged. -/
def damagedRun : List CacheStep :=
  [.request .empty, .damage emptyKey (.empty (.filled 0)), .request .empty, .get emptyKey]

theorem compile_empty : ConstraintSet.empty.compile {} = .ok (.empty emptyKey) := by
  with_unfolding_all rfl

theorem contents_damagedRun :
    damagedRun.flatMap (CacheStep.contents {}) =
      [ConstraintSet.empty.content, (Artifact.empty emptyKey).digestContent,
        (Artifact.empty (.filled 0)).digestContent, ConstraintSet.empty.content,
        (Artifact.empty emptyKey).digestContent] := by
  simp only [damagedRun, List.flatMap_cons, List.flatMap_nil, CacheStep.contents, compile_empty,
    List.cons_append, List.nil_append, List.append_nil]

set_option maxRecDepth 100000 in
theorem nodup_hashes :
    ([ConstraintSet.empty.content, (Artifact.empty emptyKey).digestContent,
      (Artifact.empty (.filled 0)).digestContent].map Blake3.hash).Nodup := by
  decide +kernel

theorem collisionFree_damagedRun : CollisionFree {} damagedRun := by
  have repeated : ∀ a b c x : List UInt8, x ∈ [a, b, c, a, b] → x ∈ [a, b, c] := by
    intro a b c x hx
    simp only [List.mem_cons, List.not_mem_nil, or_false] at hx ⊢
    tauto
  refine .of_nodup nodup_hashes fun x hx => ?_
  rw [contents_damagedRun] at hx
  exact repeated _ _ _ _ hx

theorem run_transparent_damagedRun :
    CollisionFree {} damagedRun ∧
      Shows {} (requestedIn (damagedRun.take 2)) (run {} 8 (damagedRun.take 2))
        (.request .empty) ∧
      Shows {} (requestedIn (damagedRun.take 3)) (run {} 8 (damagedRun.take 3))
        (.get emptyKey) := by
  have request : damagedRun = damagedRun.take 2 ++ .request .empty :: [.get emptyKey] := rfl
  have get : damagedRun = damagedRun.take 3 ++ .get emptyKey :: [] := rfl
  exact ⟨collisionFree_damagedRun, run_transparent collisionFree_damagedRun request,
    run_transparent collisionFree_damagedRun get⟩

end ArtifactCache

end GuidedDecoding
