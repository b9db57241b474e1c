import GuidedDecoding.Proofs.Artifact.Consistency
import GuidedDecoding.Proofs.Compilation.Stages
import GuidedDecoding.Proofs.Grammar.Sources
import GuidedDecoding.Proofs.Graph.Demoted
import GuidedDecoding.Proofs.Schema.Sources

/-!
# Every constraint is accounted for

Each part of an artifact names the constraints that it comes from. The parts name no constraint in
common and together every member of the set, and a member that is neither advice nor demoted is
named by the part of its own enforcement (`ConstraintSet.accounts_of_compile`).
-/

namespace GuidedDecoding

/-- The constraints of a list that one representation is to enforce. -/
def Enforcement.select (e : Enforcement) (l : List Constraint) : List Constraint :=
  l.filter fun c => c.enforcement = e

/-- The ids that the fragment of an enforcement names, as often as it does. -/
def Fragments.named (f : Fragments) : Enforcement → List String
  | .schema => f.schema.elim [] fun s => s.sources.toList
  | .grammar => f.grammar.elim [] Grammar.sources
  | .regex => f.patterns.elim [] fun s => s.patterns.map NamedPattern.source
  | .tokenMask => f.mask.elim [] fun m => m.rules.map MaskRule.source
  | .advisory => []

/-- The ids that the part of an artifact for an enforcement names, as often as it does. -/
def Artifact.named (a : Artifact) : Enforcement → List String
  | .advisory => a.advisory.map AdvisoryEntry.id
  | e => a.toFragments.named e

/-- An artifact enforces or carries along each member of a set once. -/
structure Artifact.Accounts (a : Artifact) (s : ConstraintSet) : Prop where
  covered : ∀ id, id ∈ s.ids ↔ ∃ e, id ∈ a.named e
  apart : ∀ e f, e ≠ f → (a.named e).Disjoint (a.named f)
  patterns_once : (a.named .regex).Nodup
  mask_once : (a.named .tokenMask).Nodup
  advisory_once : (a.named .advisory).Nodup
  enforced : ∀ c ∈ s.members, c.isEnforced = true → ¬ demotedIn a.advisory c.id = true →
    c.id ∈ a.named c.enforcement

/-! ### What a fragment names -/

section

variable [RegexLibrary]

theorem NamedPattern.source_of_ofConstraint {limit : Nat} {c : Constraint} {p : NamedPattern}
    (h : ofConstraint limit c = .ok p) : p.source = c.id := by
  unfold ofConstraint at h
  split at h
  · split at h
    · cases h
    · split at h
      · cases h
      · split at h <;> cases h
        rfl
  · cases h

theorem MaskRule.source_of_ofConstraint {c : Constraint} {r : MaskRule}
    (h : ofConstraint c = .ok r) : r.source = c.id := by
  unfold ofConstraint at h
  split at h
  · split at h
    all_goals
      split at h <;> cases h
      rfl
  · cases h

namespace Fragments

variable {config : CompilerConfig} {l : List Constraint} {f : Fragments} {id : String}

theorem named_regex (h : ofConstraints config l = .ok f) :
    f.named .regex = (Enforcement.regex.select l).map Constraint.id := by
  obtain ⟨-, -, patterns, -⟩ := ofConstraints_eq_ok_iff.1 h
  unfold PatternSet.ofConstraints at patterns
  split at patterns
  · next none_there =>
    rw [Enforcement.select, none_there, named, ← Except.ok.inj patterns]
    rfl
  · obtain ⟨compiled, done, same⟩ := Outcome.map_eq_ok_iff.1 patterns
    rw [named, ← same]
    exact Outcome.map_mapM (fun _ _ => NamedPattern.source_of_ofConstraint) done

theorem named_tokenMask (h : ofConstraints config l = .ok f) :
    f.named .tokenMask = (Enforcement.tokenMask.select l).map Constraint.id := by
  obtain ⟨-, -, -, mask⟩ := ofConstraints_eq_ok_iff.1 h
  unfold TokenMask.ofConstraints at mask
  split at mask
  · next none_there =>
    rw [Enforcement.select, none_there, named, ← Except.ok.inj mask]
    rfl
  · obtain ⟨compiled, done, same⟩ := Outcome.map_eq_ok_iff.1 mask
    rw [named, ← same]
    exact Outcome.map_mapM (fun _ _ => MaskRule.source_of_ofConstraint) done

theorem mem_named_schema (h : ofConstraints config l = .ok f) :
    id ∈ f.named .schema ↔ id ∈ (Enforcement.schema.select l).map Constraint.id := by
  obtain ⟨schema, -, -, -⟩ := ofConstraints_eq_ok_iff.1 h
  unfold Schema.ofConstraints at schema
  split at schema
  · next none_there =>
    rw [Enforcement.select, none_there, named, ← Except.ok.inj schema]
    rfl
  · obtain ⟨compiled, done, same⟩ := Outcome.map_eq_ok_iff.1 schema
    rw [named, ← same, List.mem_map]
    exact Schema.mem_sources_of_ofDeclarations done

theorem mem_named_grammar (h : ofConstraints config l = .ok f) :
    id ∈ f.named .grammar ↔ id ∈ (Enforcement.grammar.select l).map Constraint.id := by
  obtain ⟨-, grammar, -, -⟩ := ofConstraints_eq_ok_iff.1 h
  unfold Grammar.ofConstraints at grammar
  split at grammar
  · next none_there =>
    rw [Enforcement.select, none_there, named, ← Except.ok.inj grammar]
    rfl
  · obtain ⟨compiled, done, same⟩ := Outcome.map_eq_ok_iff.1 grammar
    rw [named, ← same, List.mem_map]
    exact Grammar.mem_sources_of_ofProductions done

/-- The fragment of an enforcement names the constraints that it enforces. -/
theorem mem_named_iff (h : ofConstraints config l = .ok f) {e : Enforcement} (other : e ≠ .advisory) :
    id ∈ f.named e ↔ id ∈ (e.select l).map Constraint.id := by
  cases e with
  | schema => exact mem_named_schema h
  | grammar => exact mem_named_grammar h
  | regex => rw [named_regex h]
  | tokenMask => rw [named_tokenMask h]
  | advisory => exact absurd rfl other

end Fragments

end

/-! ### What an artifact names -/

namespace Resolution

variable {config : CompilerConfig} {g : ConstraintGraph} {r : Resolution} {f : Fragments}
  {source : Fingerprint} {id : String} {e : Enforcement} {c : Constraint}

theorem enforcement_ne_of_mem_ordered (resolved : ofGraph g = .ok r) (stays : c ∈ r.ordered) :
    c.enforcement ≠ .advisory := by
  have enforced := ((mem_ordered_of_ofGraph resolved).1 stays).2.1
  simpa [Constraint.isEnforced] using enforced

theorem named_artifact (other : e ≠ .advisory) : (r.artifact f source).named e = f.named e := by
  cases e with
  | advisory => exact absurd rfl other
  | _ => rfl

theorem mem_named_artifact [RegexLibrary] (resolved : ofGraph g = .ok r)
    (made : Fragments.ofConstraints config r.ordered = .ok f) :
    id ∈ (r.artifact f source).named e ↔ (∃ c ∈ r.ordered, c.enforcement = e ∧ c.id = id) ∨
      (e = .advisory ∧ id ∈ r.advisory.map AdvisoryEntry.id) := by
  by_cases advice : e = .advisory
  · subst advice
    have none_there : ¬ ∃ c ∈ r.ordered, c.enforcement = .advisory ∧ c.id = id := by
      rintro ⟨c, stays, advice, -⟩
      exact enforcement_ne_of_mem_ordered resolved stays advice
    simp only [none_there, false_or, true_and]
    rfl
  · rw [named_artifact advice, Fragments.mem_named_iff made advice, Enforcement.select]
    simp [advice, and_assoc]

/-- The artifact of a resolution accounts for the members of the graph. -/
theorem accounts_artifact [RegexLibrary] (resolved : ofGraph g = .ok r)
    (made : Fragments.ofConstraints config r.ordered = .ok f) :
    (r.artifact f source).Accounts g.set := by
  have shared := shared_of_ofGraph resolved
  obtain ⟨onceOrdered, onceAdvisory, apart⟩ := List.nodup_append.1 (nodup_of_ofGraph resolved)
  have selected : ∀ e : Enforcement, ((e.select r.ordered).map Constraint.id).Nodup :=
    fun e => onceOrdered.sublist (List.filter_sublist.map _)
  constructor
  case covered =>
    intro id
    simp only [mem_named_artifact resolved made, ← shared.mem_iff, List.mem_append]
    constructor
    · rintro (enforced | entry)
      · obtain ⟨c, stays, rfl⟩ := List.mem_map.1 enforced
        exact ⟨c.enforcement, .inl ⟨c, stays, rfl, rfl⟩⟩
      · exact ⟨.advisory, .inr ⟨rfl, entry⟩⟩
    · rintro ⟨e, ⟨c, stays, -, rfl⟩ | ⟨-, entry⟩⟩
      · exact .inl (List.mem_map_of_mem stays)
      · exact .inr entry
  case apart =>
    intro e e' different id named named'
    rw [mem_named_artifact resolved made] at named named'
    rcases named with ⟨c, stays, rfl, rfl⟩ | ⟨rfl, entry⟩
    · rcases named' with ⟨d, stays', rfl, same⟩ | ⟨rfl, entry⟩
      · exact different (congrArg _ (List.inj_on_of_nodup_map onceOrdered stays stays' same.symm))
      · exact apart c.id (List.mem_map_of_mem stays) c.id entry rfl
    · rcases named' with ⟨d, stays', rfl, rfl⟩ | ⟨rfl, -⟩
      · exact apart d.id (List.mem_map_of_mem stays') d.id entry rfl
      · exact different rfl
  case patterns_once =>
    rw [named_artifact (by decide), Fragments.named_regex made]
    exact selected .regex
  case mask_once =>
    rw [named_artifact (by decide), Fragments.named_tokenMask made]
    exact selected .tokenMask
  case advisory_once => exact onceAdvisory
  case enforced =>
    intro c member enforced standing
    rw [advisory_artifact, Bool.not_eq_true] at standing
    have stays := (mem_ordered_of_ofGraph resolved).2 ⟨member, enforced, standing⟩
    exact (mem_named_artifact resolved made).2 (.inl ⟨c, stays, rfl, rfl⟩)

end Resolution

namespace ConstraintSet

/-- Whatever a set compiles to accounts for its members. -/
theorem accounts_of_compile [RegexLibrary] {config : CompilerConfig} {s : ConstraintSet}
    {a : Artifact} (h : s.compile config = .ok a) : a.Accounts s := by
  obtain ⟨g, r, rfl, resolved, compiled⟩ := compile_eq_ok_iff.1 h
  obtain ⟨fragments, made, -, rfl⟩ := Resolution.compile_eq_ok_iff.1 compiled
  exact Resolution.accounts_artifact resolved made

theorem accounts_oneOfEach : ∃ a, oneOfEach.set.compile {} = .ok a ∧ a.Accounts oneOfEach.set ∧
    a.named .advisory = ["advice", "given"] ∧ "wanted" ∈ a.named .schema := by
  obtain ⟨a, compiled, entries⟩ := compile_oneOfEach
  have accounts := accounts_of_compile compiled
  have wanted : "wanted" ∈ a.named .schema := by
    refine accounts.enforced eitherAmount.winner (by simp [oneOfEach]) rfl ?_
    rw [entries]
    decide
  refine ⟨a, compiled, accounts, ?_, wanted⟩
  rw [Artifact.named, entries]
  rfl

end ConstraintSet

end GuidedDecoding
