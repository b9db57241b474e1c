import GuidedDecoding.Proofs.Grammar.LookaheadMeaning
import GuidedDecoding.Proofs.Grammar.Merging

/-!
# Productions in another order

Productions that come in another order make a grammar with the same rules, fields and sources, in
which the alternatives of a rule may stand in another order. Whether such a grammar is accepted does
not depend on that order: forms and texts only need an alternative to be there, and the check for
ambiguity, said in terms of forms, treats the two alternatives of a pair alike.

The same productions in another order, or some of them given again, have the same union
(`Grammar.Unites`), which is all that the grammar is made of up to that order.
-/

namespace GuidedDecoding

namespace Grammar

/-! ### More alternatives, more forms -/

/-- Every alternative of a rule is one of the other grammar's rule, too. -/
def Within (g h : Grammar) : Prop :=
  ∀ name r, g.rule? name = some r → ∃ s, h.rule? name = some s ∧ r.alternatives ⊆ s.alternatives

section Within

variable {g h : Grammar} (within : g.Within h)
include within

theorem Within.declared {name : String} (declared : name ∈ Keyed.names g.rules) :
    name ∈ Keyed.names h.rules := by
  obtain ⟨⟨_, r⟩, member, rfl⟩ := List.mem_map.1 declared
  obtain ⟨s, found, -⟩ := within _ r (Keyed.get?_of_mem g.sorted member)
  exact Keyed.mem_names_of_get? found

variable {form other : List Symbol}

theorem Expands.mono (step : g.Expands form other) : h.Expands form other := by
  obtain ⟨before, after, found, listed⟩ := step
  obtain ⟨s, found', more⟩ := within _ _ found
  exact .step before after found' (more listed)

theorem Reaches.mono (reached : g.Reaches form other) : h.Reaches form other := by
  induction reached with
  | refl => exact .refl _
  | tail _ step ih => exact Relation.ReflTransGen.tail ih (step.mono within)

theorem Derives.mono {text : String} (derived : g.Derives form text) : h.Derives form text := by
  obtain ⟨f, rfl⟩ := derived
  induction f with
  | nil => exact derives_nil.2 rfl
  | terminal text others ih => exact derives_terminal_cons.2 ⟨_, ih, rfl⟩
  | rule found choice children others ihChildren ihOthers =>
    obtain ⟨s, found', more⟩ := within _ _ found
    have listed := more (List.getElem_mem choice.isLt)
    have first := derives_rule.2 ⟨s, found', _, listed, ihChildren⟩
    exact derives_rule_cons.2 ⟨_, _, first, ihOthers, rfl⟩

theorem CanStart.mono {x : Option Char} (starts : g.CanStart form x) : h.CanStart form x := by
  cases x with
  | none => exact Reaches.mono within starts
  | some c =>
    obtain ⟨text, rest, reached, first⟩ := starts
    exact ⟨text, rest, reached.mono within, first⟩

theorem CanFollow.mono {name : String} {c : Char} (follows : g.CanFollow name c) :
    h.CanFollow name c := by
  obtain ⟨origin, declared, before, text, after, reached, first⟩ := follows
  exact ⟨origin, within.declared declared, before, text, after, reached.mono within, first⟩

theorem Undecided.mono {name : String} (undecided : g.Undecided name form other) :
    h.Undecided name form other := by
  rcases undecided with ⟨c, first, shared⟩ | ⟨empty, empty'⟩ | ⟨c, follows, case⟩
  · exact .inl ⟨c, first.mono within, shared.mono within⟩
  · exact .inr (.inl ⟨empty.mono within, empty'.mono within⟩)
  · refine .inr (.inr ⟨c, follows.mono within, case.imp ?_ ?_⟩)
    · exact fun ⟨empty, first⟩ => ⟨empty.mono within, first.mono within⟩
    · exact fun ⟨empty, first⟩ => ⟨empty.mono within, first.mono within⟩

end Within

end Grammar

/-! ### Rules in another order of their alternatives -/

/-- A rule with its alternatives in another order. -/
structure GrammarRule.Rearranged (r s : GrammarRule) : Prop where
  alternatives : r.alternatives.Perm s.alternatives
  field : r.field = s.field
  sources : r.sources = s.sources

namespace Grammar

/-- The same rules, with their alternatives in another order. -/
def Rearranged (g h : Grammar) : Prop :=
  ∀ name, Option.Rel GrammarRule.Rearranged (g.rule? name) (h.rule? name)

namespace Rearranged

variable {g h : Grammar}

theorem exists_rule (same : g.Rearranged h) {name : String} {r : GrammarRule}
    (found : g.rule? name = some r) : ∃ s, h.rule? name = some s ∧ r.Rearranged s := by
  have both := same name
  rw [found] at both
  cases filed : h.rule? name with
  | none =>
    rw [filed] at both
    cases both
  | some s =>
    rw [filed] at both
    cases both with
    | some rearranged => exact ⟨s, rfl, rearranged⟩

theorem symm (same : g.Rearranged h) : h.Rearranged g := by
  intro name
  cases found : h.rule? name with
  | none =>
    cases filed : g.rule? name with
    | none => exact .none
    | some r =>
      obtain ⟨s, found', -⟩ := same.exists_rule filed
      exact absurd (found.symm.trans found') (by simp)
  | some s =>
    cases filed : g.rule? name with
    | none =>
      have both := same name
      rw [found, filed] at both
      cases both
    | some r =>
      obtain ⟨s', found', rearranged⟩ := same.exists_rule filed
      cases found.symm.trans found'
      exact .some ⟨rearranged.alternatives.symm, rearranged.field.symm, rearranged.sources.symm⟩

theorem within (same : g.Rearranged h) : g.Within h := by
  intro name r found
  obtain ⟨s, found', rearranged⟩ := same.exists_rule found
  exact ⟨s, found', rearranged.alternatives.subset⟩

/-- Names of rules are sorted, so the same ones stand in the same order. -/
theorem names_eq (same : g.Rearranged h) : Keyed.names g.rules = Keyed.names h.rules := by
  have sets : (⟨Keyed.names g.rules, g.sorted⟩ : NameSet) = ⟨Keyed.names h.rules, h.sorted⟩ :=
    NameSet.ext_mem fun _ => ⟨same.within.declared, same.symm.within.declared⟩
  exact congrArg NameSet.toList sets

/-- A rearranged grammar is accepted if the grammar is. -/
theorem accepted (same : g.Rearranged h) (accepted : g.Accepted) : h.Accepted := by
  have origin {name : String} {s : GrammarRule} (member : (name, s) ∈ h.rules) :
      ∃ r, (name, r) ∈ g.rules ∧ s.Rearranged r := by
    obtain ⟨r, found, rearranged⟩ := same.symm.exists_rule (Keyed.get?_of_mem h.sorted member)
    exact ⟨r, Keyed.mem_of_get? found, rearranged⟩
  have spelledOut : h.SpelledOut := by
    intro name s member symbols listed
    obtain ⟨r, member', rearranged⟩ := origin member
    exact accepted.spelledOut name r member' symbols (rearranged.alternatives.mem_iff.1 listed)
  refine ⟨spelledOut, ?_, ?_, ?_⟩
  · intro name s member symbols listed other inside
    obtain ⟨r, member', rearranged⟩ := origin member
    exact same.within.declared (accepted.defined name r member' symbols
      (rearranged.alternatives.mem_iff.1 listed) other inside)
  · intro name declared
    obtain ⟨text, derived⟩ := accepted.productive name (same.symm.within.declared declared)
    exact ⟨text, derived.mono same.within⟩
  · rw [predictive_iff spelledOut]
    intro name s member
    obtain ⟨r, member', rearranged⟩ := origin member
    have decided := (predictive_iff accepted.spelledOut).1 accepted.predictive name r member'
    have inG : s.alternatives.Pairwise fun one other => ¬ g.Undecided name one other :=
      (rearranged.alternatives.pairwise_iff fun apart undecided => apart undecided.symm).2 decided
    exact inG.imp fun apart undecided => apart (undecided.mono same.symm.within)

end Rearranged

/-- Grammars that unite the same productions are rearranged from each other. -/
theorem Unites.rearranged {g h : Grammar} {l l' : List Constraint} (perm : l.Perm l')
    (unites : g.Unites l) (unites' : h.Unites l') : g.Rearranged h := by
  have some_of {p : Constraint → Prop} : (∃ c ∈ l, p c) ↔ ∃ c ∈ l', p c := by
    simp only [perm.mem_iff]
  intro name
  have declared : name ∈ Keyed.names g.rules ↔ name ∈ Keyed.names h.rules := by
    rw [unites.declared, unites'.declared, some_of]
  cases found : g.rule? name with
  | none =>
    have missing := Keyed.get?_eq_none_iff.1 found
    have filed : h.rule? name = none := Keyed.get?_eq_none_iff.2 fun known =>
      missing (declared.2 known)
    rw [filed]
    exact .none
  | some r =>
    obtain ⟨s, found'⟩ := exists_rule_of_declared (declared.1 (Keyed.mem_names_of_get? found))
    rw [found']
    refine .some ⟨?alternatives, ?field, ?sources⟩
    case alternatives =>
      refine (List.perm_ext_iff_of_nodup (unites.once _ _ found) (unites'.once _ _ found')).2 ?_
      intro symbols
      rw [unites.alternatives _ _ found, unites'.alternatives _ _ found', some_of]
    case field =>
      refine Option.ext fun field => ?_
      rw [unites.field _ _ found, unites'.field _ _ found', some_of]
    case sources =>
      refine NameSet.ext_mem fun id => ?_
      rw [unites.sources _ _ found, unites'.sources _ _ found', some_of]

/-- Productions that make a grammar make a rearranged one in another order. -/
theorem exists_rearranged_of_ofProductions {l l' : List Constraint} (perm : l.Perm l')
    {g : Grammar} (compiled : ofProductions l = .ok g) :
    ∃ h, ofProductions l' = .ok h ∧ g.Rearranged h ∧ g.Unites l := by
  obtain ⟨m, merged, accepted, rfl⟩ := ofProductions_eq_ok_iff.1 compiled
  have mergeable := MergedRules.exists_ofConstraints_iff.1 ⟨m, merged⟩
  obtain ⟨m', merged'⟩ := MergedRules.exists_ofConstraints_iff.2 (mergeable.perm perm)
  have unites := MergedRules.unites_of_ofConstraints merged
  have same := unites.rearranged perm (MergedRules.unites_of_ofConstraints merged')
  exact ⟨m'.toGrammar, ofProductions_eq_ok_iff.2 ⟨m', merged', same.accepted accepted, rfl⟩, same,
    unites⟩

/-- Constraints compile when those among them that are productions make a grammar. -/
theorem exists_ofConstraints_iff {l : List Constraint} : (∃ r, ofConstraints l = .ok r) ↔
    ∃ g, ofProductions (l.filter fun c => c.enforcement = .grammar) = .ok g := by
  unfold ofConstraints
  split
  · next none_targeted =>
    rw [none_targeted]
    exact ⟨fun _ => ⟨_, rfl⟩, fun _ => ⟨none, rfl⟩⟩
  · simp [Outcome.map_eq_ok_iff]

/-- Constraints in another order compile alike: there is a grammar for both orders or for neither,
and the two have the same rules, fields and sources, and for each rule the same alternatives. These
are the ones that some production lists for the rule, each once, so a rule derives what it derives
by the productions as they stand. -/
theorem ofConstraints_perm {l l' : List Constraint} (perm : l.Perm l') :
    ((∃ g, ofConstraints l = .ok g) ↔ ∃ g, ofConstraints l' = .ok g) ∧
    ∀ g, ofConstraints l = .ok (some g) → ∃ h, ofConstraints l' = .ok (some h) ∧
      Keyed.names g.rules = Keyed.names h.rules ∧ g.Rearranged h ∧
      g.Unites (l.filter fun c => c.enforcement = .grammar) ∧
      ∀ symbols text, g.Derives symbols text ↔
        Spells (l.filter fun c => c.enforcement = .grammar) symbols text := by
  have targeted := perm.filter fun c => decide (c.enforcement = .grammar)
  constructor
  · rw [exists_ofConstraints_iff, exists_ofConstraints_iff]
    constructor
    · rintro ⟨g, compiled⟩
      obtain ⟨h, compiled', -⟩ := exists_rearranged_of_ofProductions targeted compiled
      exact ⟨h, compiled'⟩
    · rintro ⟨h, compiled⟩
      obtain ⟨g, compiled', -⟩ := exists_rearranged_of_ofProductions targeted.symm compiled
      exact ⟨g, compiled'⟩
  · intro g compiled
    obtain ⟨some_targeted, compiled⟩ := ofConstraints_eq_ok_some_iff.1 compiled
    obtain ⟨h, compiled', same, unites⟩ := exists_rearranged_of_ofProductions targeted compiled
    have some_targeted' : (l'.filter fun c => c.enforcement = .grammar) ≠ [] := by
      intro nothing
      rw [nothing] at targeted
      exact some_targeted (List.perm_nil.1 targeted)
    exact ⟨h, ofConstraints_eq_ok_some_iff.2 ⟨some_targeted', compiled'⟩, same.names_eq, same,
      unites, fun _ _ => unites.derives_iff⟩

/-- Two productions of one rule, with an alternative in common, and one that refers to it. -/
def twoShares : List Constraint :=
  [.ofProduction "first" .high "unit" [[.terminal "g"], [.terminal "kg"]],
    (Constraint.ofProduction "second" .high "unit"
      [[.terminal "kg"], [.terminal "t"]]).boundToField "unit",
    .ofProduction "amount" .high "amount" [[.terminal "1", .rule "unit"]]]

theorem ofConstraints_perm_twoShares : ∃ g h, ofConstraints twoShares = .ok (some g) ∧
    ofConstraints twoShares.reverse = .ok (some h) ∧ g ≠ h ∧ g.Rearranged h ∧
    Spells twoShares [.rule "amount"] "1t" := by
  have compiled : ofConstraints twoShares = .ok (some _) := rfl
  obtain ⟨h, compiled', -, same, -, derives⟩ :=
    (ofConstraints_perm (List.reverse_perm twoShares).symm).2 _ compiled
  have reversed : ofConstraints twoShares.reverse = .ok (some _) := rfl
  cases compiled'.symm.trans reversed
  refine ⟨_, _, compiled, reversed, by decide, same, (derives _ _).1 ⟨?_, ?_⟩⟩
  · refine .rule rfl ⟨0, by decide⟩ (.terminal "1" ?_) .nil
    exact .rule rfl ⟨2, by decide⟩ (.terminal "t" .nil) .nil
  · rfl

end Grammar

end GuidedDecoding
