import GuidedDecoding.Proofs.Outcome
import GuidedDecoding.TokenMask.Compile

/-!
# Symbols that a mask permits

A mask permits a symbol exactly when every allow rule selects it and no deny rule does. A mask that
was compiled is always ready, since each of its patterns was compiled in the form in which it
selects.
-/

namespace GuidedDecoding

variable [RegexLibrary]

namespace ReadyRule

/-- An allow rule selects the symbol, and a deny rule does not. -/
def Permits (r : ReadyRule) (symbol : String) : Prop :=
  match r.action with
  | .allow => r.matcher.selects symbol = true
  | .deny => r.matcher.selects symbol = false

theorem permits_iff {r : ReadyRule} {symbol : String} :
    r.Permits symbol ↔ denies symbol r = false ∧ excludes symbol r = false := by
  obtain ⟨action, matcher, source⟩ := r
  cases action with
  | allow => simp [Permits, denies, excludes]
  | deny => simp [Permits, denies, excludes]

/-- Nothing forbids a symbol exactly when every rule permits it. -/
theorem blocker?_verdict_eq_none_iff {rules : List ReadyRule} {symbol : String} :
    (verdict rules symbol).blocker? = none ↔ ∀ r ∈ rules, r.Permits symbol := by
  simp only [permits_iff, forall_and]
  unfold verdict
  split
  · next r denied =>
    have denies := List.find?_some denied
    have member := List.mem_of_find?_eq_some denied
    refine iff_of_false (by simp [MaskVerdict.blocker?]) fun ⟨clear, _⟩ => ?_
    exact absurd denies (by simp [clear r member])
  · next allDeny =>
    split
    · next r excluded =>
      have excludes := List.find?_some excluded
      have member := List.mem_of_find?_eq_some excluded
      refine iff_of_false (by simp [MaskVerdict.blocker?]) fun ⟨_, clear⟩ => ?_
      exact absurd excludes (by simp [clear r member])
    · next allAllow =>
      refine iff_of_true rfl ⟨fun r member => ?_, fun r member => ?_⟩
      · simpa using List.find?_eq_none.1 allDeny r member
      · simpa using List.find?_eq_none.1 allAllow r member

/-- What forbids a symbol is one of the rules. -/
theorem exists_of_blocker?_verdict {rules : List ReadyRule} {symbol blocker : String}
    (h : (verdict rules symbol).blocker? = some blocker) : ∃ r ∈ rules, r.source = blocker := by
  unfold verdict at h
  split at h
  · next r denied =>
    cases h
    exact ⟨r, List.mem_of_find?_eq_some denied, rfl⟩
  · split at h
    · next r excluded =>
      cases h
      exact ⟨r, List.mem_of_find?_eq_some excluded, rfl⟩
    · cases h

end ReadyRule

namespace MaskRule

/-- The rule can tell symbols apart, and permits this one. -/
def Permits (r : MaskRule) (symbol : String) : Prop :=
  ∃ matcher, r.selects.ready = .ok matcher ∧ ReadyRule.Permits ⟨r.action, matcher, r.source⟩ symbol

theorem ready_of_ofConstraint {c : Constraint} {r : MaskRule} (h : ofConstraint c = .ok r) :
    ∃ matcher, r.selects.ready = .ok matcher := by
  unfold ofConstraint at h
  split at h
  · next action selects _ =>
    split at h
    · split at h
      · exact absurd h (by simp)
      · cases h
        exact ⟨_, rfl⟩
    · split at h
      · exact absurd h (by simp)
      · cases h
        exact ⟨_, rfl⟩
    · split at h
      · exact absurd h (by simp)
      · next matcher ready =>
        cases h
        exact ⟨matcher, ready⟩
  · exact absurd h (by simp)

end MaskRule

namespace TokenMask

theorem exists_ready_of_ofConstraints {constraints : List Constraint} {m : TokenMask}
    (h : ofConstraints constraints = .ok (some m)) : ∃ rules, m.ready = .ok rules := by
  unfold ofConstraints at h
  split at h
  · exact absurd h (by simp)
  · obtain ⟨l, compiled, same⟩ := Outcome.map_eq_ok_iff.1 h
    cases same
    apply Outcome.exists_mapM_eq_ok
    refine (Outcome.forall_mapM_iff (p := fun _ => True) compiled ?_).1 fun _ _ => trivial
    intro c r compiled
    obtain ⟨matcher, ready⟩ := MaskRule.ready_of_ofConstraint compiled
    exact iff_of_true trivial ⟨⟨r.action, matcher, r.source⟩, by rw [ready]; rfl⟩

theorem sources_of_ready {m : TokenMask} {rules : List ReadyRule} (h : m.ready = .ok rules) :
    rules.map ReadyRule.source = m.rules.map MaskRule.source := by
  refine Outcome.map_mapM (fun r ready made => ?_) h
  obtain ⟨matcher, -, rfl⟩ := Outcome.map_eq_ok_iff.1 made
  rfl

/-- Once a mask is ready, its rules permit what they permit as rules of the mask. -/
theorem forall_permits_iff {m : TokenMask} {rules : List ReadyRule} (h : m.ready = .ok rules)
    {symbol : String} : (∀ r ∈ rules, r.Permits symbol) ↔ ∀ r ∈ m.rules, r.Permits symbol := by
  refine (Outcome.forall_mapM_iff h fun r ready made => ?_).symm
  obtain ⟨matcher, compiled, rfl⟩ := Outcome.map_eq_ok_iff.1 made
  simp [MaskRule.Permits, compiled]

end TokenMask

end GuidedDecoding
