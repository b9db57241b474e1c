import GuidedDecoding.Compilation.Basic
import GuidedDecoding.Proofs.Graph.Resolution
import GuidedDecoding.Regex.Compiled

/-!
# The stages of compiling

A set that is no graph does not compile. The graph of a set is resolved, and what the resolution
compiles to depends on the set by its fingerprint only. An artifact is made of the fragments of the
constraints that stay enforced and of the remarks of the resolution.
-/

namespace GuidedDecoding

namespace ConstraintGraph

variable {s : ConstraintSet} {g : ConstraintGraph}

theorem build_of_sound (sound : s.fault? = none) : build s = .ok ⟨s, sound⟩ := by
  unfold build
  split
  · next e fault => cases sound.symm.trans fault
  · rfl

theorem build_of_fault {e : CompileError} (fault : s.fault? = some e) : build s = .error e := by
  unfold build
  split
  · next e' fault' => rw [Option.some.inj (fault.symm.trans fault')]
  · next sound => cases fault.symm.trans sound

theorem build_eq_ok_iff : build s = .ok g ↔ g.set = s := by
  cases fault : s.fault? with
  | none =>
    rw [build_of_sound fault]
    constructor
    · rintro ⟨⟩
      rfl
    · rintro rfl
      rfl
  | some e =>
    rw [build_of_fault fault]
    constructor
    · rintro ⟨⟩
    · rintro rfl
      cases g.sound.symm.trans fault

end ConstraintGraph

namespace Resolution

/-- The artifact of fragments, with the remarks of a resolution. -/
def artifact (r : Resolution) (fragments : Fragments) (source : Fingerprint) : Artifact where
  toFragments := fragments
  advisory := r.advisory
  notes := r.notes
  source

section

variable (r : Resolution) (fragments : Fragments) (source : Fingerprint)

@[simp] theorem toFragments_artifact : (r.artifact fragments source).toFragments = fragments := rfl

@[simp] theorem advisory_artifact : (r.artifact fragments source).advisory = r.advisory := rfl

@[simp] theorem notes_artifact : (r.artifact fragments source).notes = r.notes := rfl

end

section

variable [RegexLibrary]

/-- What a resolution compiles to, for the set of a fingerprint. -/
def compile (config : CompilerConfig) (source : Fingerprint) (r : Resolution) :
    Except CompileError Artifact :=
  Fragments.ofConstraints config r.ordered >>= fun fragments =>
    Artifact.assemble config fragments r source

variable {config : CompilerConfig} {source : Fingerprint} {r : Resolution} {a : Artifact}

theorem compile_eq_ok_iff :
    r.compile config source = .ok a ↔ ∃ fragments,
      Fragments.ofConstraints config r.ordered = .ok fragments ∧
        fragments.fault? config.effectiveExpansion = none ∧
        a = r.artifact fragments source := by
  refine Outcome.bind_eq_ok_iff.trans (exists_congr fun fragments => and_congr_right fun _ => ?_)
  unfold Artifact.assemble
  cases fragments.fault? config.effectiveExpansion with
  | none => simp [artifact, eq_comm]
  | some e => simp

/-- Resolutions that leave the same constraints enforced both fail with one error, or compile to the
same fragments. -/
theorem compile_cases (config : CompilerConfig) (source source' : Fingerprint) {r r' : Resolution}
    (same : r.ordered = r'.ordered) :
    (∃ e, r.compile config source = .error e ∧ r'.compile config source' = .error e) ∨
      ∃ fragments, r.compile config source = .ok (r.artifact fragments source) ∧
        r'.compile config source' = .ok (r'.artifact fragments source') := by
  rw [compile, compile, same]
  cases Fragments.ofConstraints config r'.ordered with
  | error e => exact .inl ⟨e, rfl, rfl⟩
  | ok fragments =>
    simp only [bind, Except.bind, Artifact.assemble]
    cases fragments.fault? config.effectiveExpansion with
    | some e => exact .inl ⟨e, rfl, rfl⟩
    | none => exact .inr ⟨fragments, rfl, rfl⟩

end

end Resolution

namespace ConstraintSet

section

variable [RegexLibrary] {config : CompilerConfig} {s : ConstraintSet} {a : Artifact}

theorem compile_of_fault {e : CompileError} (fault : s.fault? = some e) :
    s.compile config = .error e := by
  rw [compile, ConstraintGraph.build_of_fault fault]
  rfl

theorem compile_of_sound (sound : s.fault? = none) :
    s.compile config =
      Resolution.ofGraph ⟨s, sound⟩ >>= Resolution.compile config s.fingerprint := by
  rw [compile, ConstraintGraph.build_of_sound sound]
  rfl

/-- A set compiles to the fragments of what stays enforced in its graph. -/
theorem compile_eq_ok_iff :
    s.compile config = .ok a ↔ ∃ g r, g.set = s ∧ Resolution.ofGraph g = .ok r ∧
      r.compile config s.fingerprint = .ok a := by
  simp only [compile, Outcome.bind_eq_ok_iff, ConstraintGraph.build_eq_ok_iff, Resolution.compile]
  constructor
  · rintro ⟨g, same, r, resolved, fragments, compiled, done⟩
    exact ⟨g, r, same, resolved, fragments, compiled, done⟩
  · rintro ⟨g, r, same, resolved, fragments, compiled, done⟩
    exact ⟨g, same, r, resolved, fragments, compiled, done⟩

/-- An artifact names the set that it was compiled from. -/
theorem source_of_compile (h : s.compile config = .ok a) : a.source = s.fingerprint := by
  obtain ⟨g, r, -, -, compiled⟩ := compile_eq_ok_iff.1 h
  obtain ⟨fragments, -, -, rfl⟩ := Resolution.compile_eq_ok_iff.1 compiled
  rfl

end

/-- One type of a field gives way to another. -/
def eitherAmount : Demotion where
  winner := (Constraint.ofField "wanted" .high "amount" .integer).conflictingWith "given"
  loser := .ofField "given" .low "amount" .string

/-- A constraint of every enforcement, and one that gives way. -/
def oneOfEach : ConstraintGraph where
  set := {
    members := [.ofAdvice "advice" .low "d",
      eitherAmount.loser,
      .ofRegex "pattern" .high "amount" "[0-9]",
      .ofProduction "rule" .high "digit" [[.terminal "0"], [.terminal "5"]],
      .ofTokenRule "token" .high .deny (.startingWith "-"),
      eitherAmount.winner]
    sorted := by decide }
  sound := rfl

theorem demotions_oneOfEach : oneOfEach.demotions = .ok [eitherAmount] := by
  have ranked : oneOfEach.rankedConflicts = oneOfEach.conflicts.map Conflict.ofPair :=
    List.mergeSort_of_pairwise (by decide)
  rw [ConstraintGraph.demotions, ranked]
  rfl

theorem compile_oneOfEach : ∃ a, oneOfEach.set.compile {} = .ok a ∧
    a.advisory = [⟨"advice", .low, .declared⟩, ⟨"given", .low, .demoted "wanted"⟩] := by
  have resolved := Resolution.ofGraph_eq_ok_iff.2 ⟨_, _, rfl, demotions_oneOfEach, rfl⟩
  have compiled : Fragments.ofConstraints {}
      (Resolution.assembled oneOfEach.placing.placed [eitherAmount]).ordered = .ok _ := rfl
  exact ⟨_, compile_eq_ok_iff.2 ⟨_, _, rfl, resolved,
    Resolution.compile_eq_ok_iff.2 ⟨_, compiled, rfl, rfl⟩⟩, rfl⟩

end ConstraintSet

end GuidedDecoding
