import GuidedDecoding.Proofs.Grammar.Merging
import GuidedDecoding.Proofs.Grammar.Productive
import GuidedDecoding.Proofs.NameSet
import Mathlib.Data.String.Basic

/-!
# Rules that derive nothing

A rule is barren when no finite text has a parse tree at it. Rules are turned down for the first
barren one among them by name, and for nothing else, so rules that are not turned down derive a text
each. The blame is on the smallest of the constraints that have a production of the rule
(`MergedRules.unproductive?_exact`).

None of it asks that the rules which are referred to exist: one that does not exist derives nothing.
-/

namespace GuidedDecoding

namespace Grammar

variable {g : Grammar} {name : String}

/-- A rule of the grammar that derives no text. -/
def IsBarren (g : Grammar) (name : String) : Prop :=
  name ∈ Keyed.names g.rules ∧ ¬ ∃ text, g.Derives [.rule name] text

/-- The first barren rule by name. -/
def IsFirstBarren (g : Grammar) (name : String) : Prop := IsLeast {name | g.IsBarren name} name

theorem isBarren_iff {r : GrammarRule} (found : g.rule? name = some r) :
    g.IsBarren name ↔ (!g.productive.contains name) = true := by
  have declared : name ∈ Keyed.names g.rules := Keyed.mem_names_of_get? found
  rw [IsBarren, ← mem_productive_iff, and_iff_right declared]
  simp

/-- The check finds the first barren rule. -/
theorem unproductive?_eq_some_iff {r : GrammarRule} :
    g.unproductive? = some (name, r) ↔ g.rule? name = some r ∧ g.IsFirstBarren name := by
  have listed (o : String) (r : GrammarRule) : (o, r) ∈ g.rules ↔ g.rule? o = some r :=
    (Keyed.get?_eq_some_iff g.sorted).symm
  rw [unproductive?, Keyed.find?_eq_some_iff g.sorted, listed]
  refine and_congr_right fun found => and_congr (isBarren_iff found).symm ?_
  constructor
  · intro least o barren
    obtain ⟨r', found'⟩ := exists_rule_of_declared barren.1
    exact least (o, r') ((listed o r').2 found') ((isBarren_iff found').1 barren)
  · rintro least ⟨o, r'⟩ member unfinished
    exact least ((isBarren_iff ((listed o r').1 member)).2 unfinished)

end Grammar

namespace MergedRule

/-- Who answers for a rule: the smallest of its sources, or the rule if it has none. -/
def AnsweredBy (r : MergedRule) (name id : String) : Prop :=
  IsLeast {source | source ∈ r.sources} id ∨ r.sources = ∅ ∧ id = name

theorem answeredBy_iff {r : MergedRule} {name id : String} :
    r.AnsweredBy name id ↔ r.sources.toList.headD name = id := by
  cases list : r.sources.toList with
  | nil =>
    have none_there : r.sources = ∅ := by
      refine NameSet.ext_mem fun x => iff_of_false ?_ NameSet.not_mem_empty
      simp [NameSet.mem_def, list]
    simp [AnsweredBy, none_there, IsLeast, eq_comm]
  | cons first rest =>
    have least : IsLeast {source | source ∈ r.sources} first := NameSet.isLeast_of_toList list
    have some_there : r.sources ≠ ∅ := by
      rintro none_there
      exact NameSet.not_mem_empty (none_there ▸ least.1)
    rw [List.headD_cons, AnsweredBy, or_iff_left fun h => some_there h.1]
    exact ⟨least.unique, fun same => same ▸ least⟩

end MergedRule

namespace CompileError

/-- What is said of a rule that derives nothing. -/
def barrenRule (name id : String) : CompileError :=
  .invalidConstraint id s!"rule `{name}` never derives a finite string"

end CompileError

namespace MergedRules

variable {m : MergedRules} {e : CompileError}

theorem unproductive?_eq_some_iff : m.unproductive? = some e ↔
    ∃ name r id, m.toGrammar.IsFirstBarren name ∧ Keyed.get? name m.rules = some r ∧
      r.AnsweredBy name id ∧ e = .barrenRule name id := by
  simp only [unproductive?, Option.map_eq_some_iff, Prod.exists,
    Grammar.unproductive?_eq_some_iff, MergedRule.answeredBy_iff]
  constructor
  · rintro ⟨name, _, ⟨found, first⟩, rfl⟩
    obtain ⟨r, filed, rfl⟩ := mem_rules_toGrammar.1 (Keyed.mem_of_get? found)
    exact ⟨name, r, _, first, Keyed.get?_of_mem m.sorted filed, rfl, rfl⟩
  · rintro ⟨name, r, _, first, filed, rfl, rfl⟩
    have member := mem_rules_toGrammar.2 ⟨r, Keyed.mem_of_get? filed, rfl⟩
    exact ⟨name, r.toRule, ⟨Keyed.get?_of_mem m.toGrammar.sorted member, first⟩, rfl⟩

/-- A rule that was merged is answered for by the smallest constraint with a production of it. -/
theorem answeredBy_iff_of_ofConstraints {l : List Constraint} (h : ofConstraints l = .ok m)
    {name id : String} {r : MergedRule} (filed : Keyed.get? name m.rules = some r) :
    r.AnsweredBy name id ↔ IsLeast {id | ∃ c ∈ l, c.Produces name ∧ c.id = id} id := by
  have sources (id : String) : id ∈ r.sources ↔ ∃ c ∈ l, c.Produces name ∧ c.id = id := by
    rw [← mem_sources_of_ofConstraints h, MergedRules.filed, filed]
    rfl
  obtain ⟨c, member, produces⟩ :=
    (mem_names_of_ofConstraints h).1 (Keyed.mem_names_of_get? filed)
  have some_there : r.sources ≠ ∅ := by
    rintro none_there
    exact NameSet.not_mem_empty (none_there ▸ (sources c.id).2 ⟨c, member, produces, rfl⟩)
  rw [MergedRule.AnsweredBy, or_iff_left fun h => some_there h.1]
  simp only [sources]

/-- Rules are turned down exactly when some rule derives no text, and then for the first such rule
by name. It is blamed on the smallest of its sources; these are the constraints with a production
of the rule. -/
theorem unproductive?_exact :
    (∀ m : MergedRules, m.unproductive? = none ↔
      ∀ name ∈ Keyed.names m.rules, ∃ text, m.toGrammar.Derives [.rule name] text) ∧
    (∀ (m : MergedRules) (e : CompileError), m.unproductive? = some e ↔
      ∃ name r id, m.toGrammar.IsFirstBarren name ∧ Keyed.get? name m.rules = some r ∧
        r.AnsweredBy name id ∧ e = .barrenRule name id) ∧
    ∀ (constraints : List Constraint) (m : MergedRules), ofConstraints constraints = .ok m →
      ∀ e, m.unproductive? = some e ↔ ∃ name id, m.toGrammar.IsFirstBarren name ∧
        IsLeast {id | ∃ c ∈ constraints, c.Produces name ∧ c.id = id} id ∧
        e = .barrenRule name id := by
  refine ⟨fun m => ?_, fun m e => unproductive?_eq_some_iff, fun constraints m merged e => ?_⟩
  · rw [unproductive?, Option.map_eq_none_iff, Grammar.unproductive?_eq_none_iff, names_toGrammar]
  · rw [unproductive?_eq_some_iff]
    constructor
    · rintro ⟨name, r, id, first, filed, answers, rfl⟩
      exact ⟨name, id, first, (answeredBy_iff_of_ofConstraints merged filed).1 answers, rfl⟩
    · rintro ⟨name, id, first, least, rfl⟩
      have declared : name ∈ Keyed.names m.rules := names_toGrammar ▸ first.1.1
      obtain ⟨⟨_, r⟩, member, rfl⟩ := List.mem_map.1 declared
      have filed := Keyed.get?_of_mem m.sorted member
      exact ⟨_, r, id, first, filed, (answeredBy_iff_of_ofConstraints merged filed).2 least, rfl⟩

/-- Two rules that only lead to each other, one of them with two productions, beside a rule that
comes to an end. -/
def endless : List Constraint :=
  [.ofProduction "open" .high "pair" [[.terminal "(", .rule "rest"]],
    .ofProduction "also" .high "pair" [[.rule "unit", .rule "pair"]],
    .ofProduction "rest" .high "rest" [[.rule "unit", .rule "pair", .terminal ")"]],
    .ofProduction "unit" .high "unit" [[], [.terminal "x", .rule "unit"]],
    .ofProduction "a" .high "atom" [[.terminal "x"]]]

/-- The blame is on the second production of the first of the two rules. -/
theorem unproductive?_endless : ∃ m, ofConstraints endless = .ok m ∧
    m.toGrammar.IsBarren "rest" ∧ ¬ m.toGrammar.IsBarren "unit" ∧
    m.unproductive? = some (.barrenRule "pair" "also") := by
  have merged : ofConstraints endless = .ok _ := rfl
  refine ⟨_, merged, (Grammar.isBarren_iff rfl).2 ?rest, mt (Grammar.isBarren_iff rfl).1 ?unit,
    (unproductive?_exact.2.2 endless _ merged _).2 ⟨"pair", "also", ⟨?pair, ?first⟩, ?least, rfl⟩⟩
  case rest => decide
  case unit => decide
  case pair => exact (Grammar.isBarren_iff rfl).2 (by decide)
  case first =>
    rintro name ⟨declared, barren⟩
    have listed : name ∈ ["atom", "pair", "rest", "unit"] := declared
    simp only [List.mem_cons, List.not_mem_nil, or_false] at listed
    rcases listed with rfl | rfl | rfl | rfl
    · exact absurd ⟨_, .rule rfl ⟨0, by decide⟩ (.terminal "x" .nil) .nil, rfl⟩ barren
    all_goals decide
  case least =>
    refine ⟨⟨_, .tail _ (.head _), ⟨_, _, rfl⟩, rfl⟩, ?_⟩
    rintro id ⟨c, member, ⟨_, _, payload⟩, rfl⟩
    simp only [endless, List.mem_cons, List.not_mem_nil, or_false] at member
    rcases member with rfl | rfl | rfl | rfl | rfl
    case inr.inr.inr.inr => simp [Constraint.ofProduction] at payload
    all_goals decide

end MergedRules

end GuidedDecoding
