import GuidedDecoding.Proofs.Grammar.Language

/-!
# Expansion is exact

In whatever grammar, an expansion comes to an end, and a list that it ends with is the language of
the rule. In a grammar that constraints are compiled to, it ends with a list exactly when there are
no more texts than the limit (`Grammar.finiteLanguage_exact`).

The rules that are being expanded are different ones, so there are never more of them than rules.
The bound on the depth is therefore never reached, and a larger bound gives the same.
-/

namespace GuidedDecoding

namespace Grammar

variable {g : Grammar}

/-- Different rules are no more than all rules. -/
theorem length_le_of_nodup {expanding : List String} (distinct : expanding.Nodup)
    (known : expanding ⊆ Keyed.names g.rules) : expanding.length ≤ g.rules.length := by
  simpa [Keyed.names] using (List.subperm_of_subset distinct known).length_le

/-- As long as there are as many steps as rules that are not being expanded, and one more, further
steps make no difference. -/
theorem expand_eq_of_enough {limit depth more : Nat} {expanding : List String} {name : String}
    (distinct : expanding.Nodup) (known : expanding ⊆ Keyed.names g.rules)
    (enough : g.rules.length < depth + expanding.length)
    (enough' : g.rules.length < more + expanding.length) :
    g.expand limit depth expanding name = g.expand limit more expanding name := by
  induction depth generalizing more expanding name with
  | zero =>
    have := length_le_of_nodup distinct known
    omega
  | succ depth ih =>
    cases more with
    | zero =>
      have := length_le_of_nodup distinct known
      omega
    | succ more =>
      rw [expand, expand]
      split
      · rfl
      · next fresh =>
        rw [List.contains_iff_mem] at fresh
        cases found : g.rule? name with
        | none => rfl
        | some r =>
          have declared : name ∈ Keyed.names g.rules := Keyed.mem_names_of_get? found
          have inner : g.expand limit depth (name :: expanding) =
              g.expand limit more (name :: expanding) := by
            funext other
            refine ih (List.nodup_cons.2 ⟨fresh, distinct⟩) (List.cons_subset.2 ⟨declared, known⟩)
              ?_ ?_
            all_goals
              rw [List.length_cons]
              omega
          rw [inner]

/-- The language of a rule of a compiled grammar is listed as long as it has no more texts than the
limit, and not otherwise. In whatever grammar, what is listed is the language, with no more texts
than the limit, and the expansion comes to its end before it reaches the bound on its depth. -/
theorem finiteLanguage_exact :
    (∀ (constraints : List Constraint) (g : Grammar), ofConstraints constraints = .ok (some g) →
      ∀ name ∈ Keyed.names g.rules, ∀ limit : Nat,
        ((g.language [.rule name]).encard ≤ limit →
          ∃ l, g.finiteLanguage name limit = some l ∧
            ∀ text, text ∈ l ↔ g.Derives [.rule name] text) ∧
        (limit < (g.language [.rule name]).encard → g.finiteLanguage name limit = none)) ∧
    (∀ (g : Grammar) (name : String) (limit : Nat) (l : NameSet),
      g.finiteLanguage name limit = some l →
        (∀ text, text ∈ l ↔ g.Derives [.rule name] text) ∧ l.toList.length ≤ limit) ∧
    ∀ (g : Grammar) (name : String) (limit depth : Nat), g.rules.length < depth →
      g.expand limit depth [] name = g.finiteLanguage name limit := by
  refine ⟨fun constraints g compiled name declared limit => ⟨fun small => ?_, fun large => ?_⟩,
    fun g name limit l listed => ⟨fun _ => mem_of_finiteLanguage_eq_some listed,
      length_finiteLanguage_le listed⟩,
    fun g name limit depth deep => ?_⟩
  · have accepted := accepted_of_ofConstraints compiled
    obtain ⟨l, listed⟩ :=
      Option.isSome_iff_exists.1 ((accepted.finiteLanguage_isSome_iff declared).2 small)
    exact ⟨l, listed, fun _ => mem_of_finiteLanguage_eq_some listed⟩
  · have accepted := accepted_of_ofConstraints compiled
    by_contra listed
    have small :=
      (accepted.finiteLanguage_isSome_iff declared).1 (Option.isSome_iff_ne_none.2 listed)
    exact absurd small (not_le_of_gt large)
  · exact expand_eq_of_enough List.nodup_nil (List.nil_subset _) (by simpa using deep) (by simp)

/-- Three amounts, two of them by way of another rule. -/
def threeAmounts : List Constraint :=
  [.ofProduction "amount" .high "amount" [[.terminal "1"], [.terminal "2", .rule "digit"]],
    .ofProduction "digit" .high "digit" [[.terminal "0"], [.terminal "5"]]]

theorem encard_threeAmounts : ∃ g, ofConstraints threeAmounts = .ok (some g) ∧
    (2 : Nat) < (g.language [.rule "amount"]).encard ∧
    (g.language [.rule "amount"]).encard ≤ (3 : Nat) := by
  have compiled : ofConstraints threeAmounts = .ok (some _) := rfl
  have exactly := finiteLanguage_exact.1 threeAmounts _ compiled "amount" (by decide)
  refine ⟨_, compiled, ?_, ?_⟩
  · by_contra few
    obtain ⟨l, listed, -⟩ := (exactly 2).1 (not_lt.1 few)
    cases listed
  · by_contra many
    cases (exactly 3).2 (not_le.1 many)

end Grammar

end GuidedDecoding
