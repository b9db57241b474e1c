import GuidedDecoding.Grammar.Compile
import GuidedDecoding.Proofs.Keyed
import GuidedDecoding.Proofs.Outcome

/-!
# The constraints that a grammar names

Merged rules name exactly the constraints that they were made of, and so does their grammar. A
production adds its constraint to the sources of its rule and leaves the others alone.
-/

namespace GuidedDecoding

/-- The constraints that the rules of a grammar name. -/
def Grammar.sources (g : Grammar) : List String := g.rules.flatMap fun r => r.2.sources.toList

namespace MergedRules

/-- Some rule comes from a constraint. -/
def Names (m : MergedRules) (id : String) : Prop := ∃ r ∈ m.rules, id ∈ r.2.sources

variable {m merged : MergedRules} {id : String} {c : Constraint}

theorem sources_of_add {rule merged : MergedRule} {name source : String}
    {alternatives : List (List Symbol)} {field : Option String}
    (h : rule.add name source alternatives field = .ok merged) :
    merged.sources = rule.sources.insert source := by
  obtain ⟨binding, -, same⟩ := Outcome.bind_eq_ok_iff.1 h
  cases same
  rfl

theorem names_of_mem_getD {rule : String}
    (h : id ∈ ((Keyed.get? rule m.rules).getD {}).sources) : m.Names id := by
  cases found : Keyed.get? rule m.rules with
  | none =>
    rw [found] at h
    exact absurd h NameSet.not_mem_empty
  | some r =>
    rw [found] at h
    exact ⟨_, Keyed.mem_of_get? found, h⟩

/-- A production adds its constraint to those that the rules come from. -/
theorem names_of_add (h : m.add c = .ok merged) : merged.Names id ↔ m.Names id ∨ c.id = id := by
  unfold add at h
  split at h
  · next rule alternatives field payload =>
    split at h
    · cases h
    · obtain ⟨added, step, same⟩ := Outcome.bind_eq_ok_iff.1 h
      cases same
      have sources := sources_of_add step
      have keeps : ∀ old, Keyed.get? rule m.rules = some old → id ∈ old.sources →
          id ∈ added.sources := by
        intro old there named
        rw [sources, there, NameSet.mem_insert]
        exact .inr named
      have known : id ∈ ((Keyed.get? rule m.rules).getD {}).sources →
          ∃ r ∈ m.rules, id ∈ r.2.sources := names_of_mem_getD
      refine (Keyed.exists_mem_insert_iff keeps).trans ?_
      rw [sources, NameSet.mem_insert, or_assoc, or_iff_right_of_imp known, or_comm,
        @eq_comm _ c.id]
      rfl
  · cases h

theorem names_of_ofConstraints {l : List Constraint} (h : ofConstraints l = .ok m) :
    m.Names id ↔ ∃ c ∈ l, c.id = id := by
  have step : ∀ m c merged, add m c = .ok merged → (merged.Names id ↔ m.Names id ∨ c.id = id) :=
    fun _ _ _ => names_of_add
  rw [Outcome.foldlM_adds step h]
  simp [Names, empty]

end MergedRules

/-- The grammar of some productions names the constraints that have them. -/
theorem Grammar.mem_sources_of_ofProductions {l : List Constraint} {g : Grammar} {id : String}
    (h : ofProductions l = .ok g) : id ∈ g.sources ↔ ∃ c ∈ l, c.id = id := by
  obtain ⟨merged, found, checked⟩ := Outcome.bind_eq_ok_iff.1 h
  rw [← MergedRules.names_of_ofConstraints found]
  split at checked
  · cases checked
  · cases checked
    simp [sources, MergedRules.toGrammar, MergedRule.toRule, MergedRules.Names, NameSet.mem_def]

end GuidedDecoding
