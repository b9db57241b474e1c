import GuidedDecoding.Grammar.Compile
import GuidedDecoding.Proofs.Grammar.Ambiguity
import GuidedDecoding.Proofs.Grammar.Lookahead
import GuidedDecoding.Proofs.Grammar.Productive
import GuidedDecoding.Proofs.Outcome

/-!
# What an accepted grammar guarantees

A grammar that constraints are compiled to has no empty terminal, refers to its own rules only, has
a text for each of them, and lets the next character decide between the alternatives of each.
-/

namespace GuidedDecoding

namespace Grammar

/-- The next character tells apart the alternatives of every rule. -/
def Predictive (g : Grammar) : Prop :=
  ∀ name r, (name, r) ∈ g.rules → r.alternatives.Pairwise fun a b =>
    ToldApart (factsAbout name (g.follows g.starts)) (startsOf g.starts a) (startsOf g.starts b)

/-- What compiling makes sure of. -/
structure Accepted (g : Grammar) : Prop where
  spelledOut : g.SpelledOut
  defined : ∀ name r, (name, r) ∈ g.rules → ∀ symbols ∈ r.alternatives, ∀ other,
    .rule other ∈ symbols → other ∈ Keyed.names g.rules
  productive : ∀ name ∈ Keyed.names g.rules, ∃ text, g.Derives [.rule name] text
  predictive : g.Predictive

end Grammar

namespace MergedRules

/-- Every symbol that was merged makes sense by itself. -/
def Sound (m : MergedRules) : Prop :=
  ∀ name r, (name, r) ∈ m.rules → ∀ a ∈ r.alternatives, ∀ s ∈ a.symbols, Symbol.fault? s = none

theorem mem_alternatives_list {source : String} {m : MergedRule} {symbols : List Symbol}
    {a : ListedAlternative} (h : a ∈ (m.list source symbols).alternatives) :
    a ∈ m.alternatives ∨ a.symbols = symbols := by
  unfold MergedRule.list at h
  split at h
  · exact .inl h
  · rcases List.mem_append.1 h with old | new
    · exact .inl old
    · rw [List.mem_singleton] at new
      exact .inr (by rw [new])

theorem mem_alternatives_foldl_list {source : String} {alternatives : List (List Symbol)}
    {m : MergedRule} {a : ListedAlternative}
    (h : a ∈ (alternatives.foldl (MergedRule.list source) m).alternatives) :
    a ∈ m.alternatives ∨ a.symbols ∈ alternatives := by
  induction alternatives generalizing m with
  | nil => exact .inl h
  | cons symbols rest ih =>
    rcases ih h with earlier | later
    · rcases mem_alternatives_list earlier with old | new
      · exact .inl old
      · exact .inr (new ▸ List.mem_cons_self)
    · exact .inr (List.mem_cons_of_mem _ later)

theorem mem_alternatives_add {m merged : MergedRule} {rule source : String}
    {alternatives : List (List Symbol)} {field : Option String}
    (h : m.add rule source alternatives field = .ok merged) {a : ListedAlternative}
    (member : a ∈ merged.alternatives) : a ∈ m.alternatives ∨ a.symbols ∈ alternatives := by
  obtain ⟨binding, -, same⟩ := Outcome.bind_eq_ok_iff.1 h
  cases same
  exact mem_alternatives_foldl_list member

theorem Sound.add {m m' : MergedRules} {c : Constraint} (sound : m.Sound) (h : m.add c = .ok m') :
    m'.Sound := by
  unfold MergedRules.add at h
  split at h
  · next rule alternatives field _ =>
    split at h
    · exact absurd h (by simp)
    · next sensible =>
      obtain ⟨merged, added, same⟩ := Outcome.bind_eq_ok_iff.1 h
      cases same
      intro name r member a listed s inside
      have filed := Keyed.get?_of_mem (Keyed.sorted_insert m.sorted) member
      rw [Keyed.get?_insert] at filed
      split at filed
      · cases filed
        rcases mem_alternatives_add added listed with old | new
        · cases known : Keyed.get? rule m.rules with
          | none => simp [known] at old
          | some earlier =>
            rw [known] at old
            exact sound rule earlier (Keyed.mem_of_get? known) a old s inside
        · unfold Grammar.productionFault? at sensible
          split at sensible
          · exact absurd sensible (by simp)
          · split at sensible
            · exact absurd sensible (by simp)
            · exact List.findSome?_eq_none_iff.1 sensible s (List.mem_flatten.2 ⟨_, new, inside⟩)
      · exact sound name r (Keyed.mem_of_get? filed) a listed s inside
  · exact absurd h (by simp)

theorem Sound.ofConstraints {constraints : List Constraint} {m : MergedRules}
    (h : ofConstraints constraints = .ok m) : m.Sound := by
  apply Outcome.foldlM_keeps Sound (fun _ _ _ sound added => sound.add added) _ h
  intro name r member
  exact absurd member List.not_mem_nil

/-! ### From merged rules to the grammar -/

variable {m : MergedRules}

/-- A rule of the grammar has the alternatives of a merged rule. -/
theorem mem_rules_toGrammar {name : String} {r : GrammarRule} :
    (name, r) ∈ m.toGrammar.rules ↔ ∃ merged, (name, merged) ∈ m.rules ∧ r = merged.toRule := by
  simp only [toGrammar, List.mem_map, Prod.mk.injEq, Prod.exists]
  constructor
  · rintro ⟨_, merged, member, rfl, rfl⟩
    exact ⟨merged, member, rfl⟩
  · rintro ⟨merged, member, rfl⟩
    exact ⟨name, merged, member, rfl, rfl⟩

theorem names_toGrammar : Keyed.names m.toGrammar.rules = Keyed.names m.rules := by
  simp [toGrammar, Keyed.names, Function.comp_def]

theorem Sound.spelledOut (sound : m.Sound) : m.toGrammar.SpelledOut := by
  intro name r member symbols listed empty
  obtain ⟨merged, filed, rfl⟩ := mem_rules_toGrammar.1 member
  obtain ⟨a, alternative, rfl⟩ := List.mem_map.1 listed
  have sensible := sound name merged filed a alternative _ empty
  simp [Symbol.fault?] at sensible

theorem defined_of_undefined?_eq_none (h : m.undefined? = none) :
    ∀ name r, (name, r) ∈ m.toGrammar.rules → ∀ symbols ∈ r.alternatives, ∀ other,
      .rule other ∈ symbols → other ∈ Keyed.names m.toGrammar.rules := by
  intro name r member symbols listed other refers
  obtain ⟨merged, filed, rfl⟩ := mem_rules_toGrammar.1 member
  obtain ⟨a, alternative, rfl⟩ := List.mem_map.1 listed
  have inRule := List.findSome?_eq_none_iff.1 h _ filed
  have inAlternative := List.findSome?_eq_none_iff.1 inRule a alternative
  have known := List.findSome?_eq_none_iff.1 inAlternative other
    (List.mem_filterMap.2 ⟨_, refers, rfl⟩)
  rw [names_toGrammar, ← Keyed.has_iff]
  by_contra missing
  simp [missing] at known

theorem undefined?_eq_none_of_defined
    (h : ∀ name r, (name, r) ∈ m.toGrammar.rules → ∀ symbols ∈ r.alternatives, ∀ other,
      .rule other ∈ symbols → other ∈ Keyed.names m.toGrammar.rules) : m.undefined? = none := by
  simp only [undefined?, List.findSome?_eq_none_iff, List.mem_filterMap, Prod.forall]
  rintro name merged filed a alternative other ⟨s, inside, refers⟩
  obtain rfl : s = .rule other := by
    cases s <;> cases refers
    rfl
  have member := mem_rules_toGrammar.2 ⟨merged, filed, rfl⟩
  have known := h name merged.toRule member a.symbols (List.mem_map.2 ⟨a, alternative, rfl⟩) other
    inside
  rw [names_toGrammar, ← Keyed.has_iff] at known
  rw [if_pos known]

/-- No rule is ambiguous exactly when the grammar is predictive. -/
theorem ambiguous?_eq_none_iff : m.ambiguous? = none ↔ m.toGrammar.Predictive := by
  have choices (name : String) (merged : MergedRule) :
      (Choice.ambiguity? (Grammar.factsAbout name (m.toGrammar.follows m.toGrammar.starts))
        (merged.alternatives.map fun a =>
          ⟨a, Grammar.startsOf m.toGrammar.starts a.symbols⟩)) = none ↔
      merged.toRule.alternatives.Pairwise fun a b =>
        ToldApart (Grammar.factsAbout name (m.toGrammar.follows m.toGrammar.starts))
          (Grammar.startsOf m.toGrammar.starts a) (Grammar.startsOf m.toGrammar.starts b) := by
    rw [Choice.ambiguity?_eq_none_iff, List.pairwise_map, MergedRule.toRule, List.pairwise_map]
  simp only [ambiguous?, List.findSome?_eq_none_iff, Option.map_eq_none_iff, choices, Prod.forall]
  constructor
  · intro clear name r member
    obtain ⟨merged, filed, rfl⟩ := mem_rules_toGrammar.1 member
    exact clear name merged filed
  · intro predictive name merged filed
    exact predictive name merged.toRule (mem_rules_toGrammar.2 ⟨merged, filed, rfl⟩)

theorem accepted_of_fault?_eq_none (sound : m.Sound) (h : m.fault? = none) :
    m.toGrammar.Accepted := by
  simp only [fault?, Option.orElse_eq_orElse, Option.orElse_eq_or, Option.or_eq_none_iff] at h
  obtain ⟨references, finite, clear⟩ := h
  exact {
    spelledOut := sound.spelledOut
    defined := defined_of_undefined?_eq_none references
    productive := fun name declared =>
      Grammar.exists_derives_of_unproductive?_eq_none (Option.map_eq_none_iff.1 finite) declared
    predictive := ambiguous?_eq_none_iff.1 clear }

/-- Nothing is wrong with the rules exactly when their grammar is acceptable. -/
theorem fault?_eq_none_iff (sound : m.Sound) : m.fault? = none ↔ m.toGrammar.Accepted := by
  refine ⟨accepted_of_fault?_eq_none sound, fun accepted => ?_⟩
  simp only [fault?, Option.orElse_eq_orElse, Option.orElse_eq_or, Option.or_eq_none_iff,
    unproductive?, Option.map_eq_none_iff]
  exact ⟨undefined?_eq_none_of_defined accepted.defined,
    Grammar.unproductive?_eq_none_iff.2 accepted.productive,
    ambiguous?_eq_none_iff.2 accepted.predictive⟩

end MergedRules

namespace Grammar

/-- Productions make a grammar when their merged rules are accepted. -/
theorem ofProductions_eq_ok_iff {constraints : List Constraint} {g : Grammar} :
    ofProductions constraints = .ok g ↔
      ∃ m, MergedRules.ofConstraints constraints = .ok m ∧ m.toGrammar.Accepted ∧
        m.toGrammar = g := by
  rw [ofProductions, Outcome.bind_eq_ok_iff]
  refine exists_congr fun m => and_congr_right fun merged => ?_
  rw [← MergedRules.fault?_eq_none_iff (MergedRules.Sound.ofConstraints merged)]
  split
  · next fault => simp [fault, throw, throwThe, MonadExceptOf.throw]
  · next sensible => simp [sensible, pure, Except.pure]

/-- Constraints compile to the grammar of those among them that are productions, if there are
any. -/
theorem ofConstraints_eq_ok_some_iff {constraints : List Constraint} {g : Grammar} :
    ofConstraints constraints = .ok (some g) ↔
      (constraints.filter fun c => c.enforcement = .grammar) ≠ [] ∧
        ofProductions (constraints.filter fun c => c.enforcement = .grammar) = .ok g := by
  unfold ofConstraints
  split
  · next none_targeted => simp [none_targeted]
  · next some_targeted =>
    simp only [Outcome.map_eq_ok_iff, Option.some.injEq, exists_eq_right]
    exact ⟨fun done => ⟨some_targeted, done⟩, And.right⟩

theorem accepted_of_ofConstraints {constraints : List Constraint} {g : Grammar}
    (h : ofConstraints constraints = .ok (some g)) : g.Accepted := by
  obtain ⟨m, -, accepted, rfl⟩ := ofProductions_eq_ok_iff.1 (ofConstraints_eq_ok_some_iff.1 h).2
  exact accepted

end Grammar

end GuidedDecoding
