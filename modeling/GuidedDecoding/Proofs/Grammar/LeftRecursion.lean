import GuidedDecoding.Proofs.Grammar.LookaheadMeaning
import GuidedDecoding.Proofs.Grammar.Nesting

/-!
# No accepted grammar is left recursive

Nothing looks for left recursion as such. If a rule had a form with itself behind symbols that can
vanish, each of its trees would lie inside a larger tree whose text begins with the same text and
goes on with something that can follow the rule; but then the next characters do not tell the two
trees apart, and in a predictive grammar they are the same tree.

A decoder that goes down the rules therefore never comes back to a rule before it has consumed
something.
-/

namespace GuidedDecoding

namespace Grammar

variable {g : Grammar}

/-- A rule can hand on to another before anything is consumed: all that stands in front of the other
in some alternative can be empty. -/
def HandsOn (g : Grammar) (outer inner : String) : Prop :=
  ∃ r, g.rule? outer = some r ∧ ∃ front back, front ++ .rule inner :: back ∈ r.alternatives ∧
    ∀ s ∈ front, g.Derives [s] ""

theorem derives_empty {front : List Symbol} (each : ∀ s ∈ front, g.Derives [s] "") :
    g.Derives front "" := by
  induction front with
  | nil => exact derives_nil.2 rfl
  | cons s rest ih =>
    rw [List.forall_mem_cons] at each
    exact derives_cons.2 ⟨"", "", each.1, ih each.2, rfl⟩

/-- Handing on again and again leads to a form with nothing in front but what can be empty. -/
theorem exists_transGen_of_handsOn {outer inner : String}
    (h : Relation.TransGen g.HandsOn outer inner) :
    ∃ front back, (∀ s ∈ front, g.Derives [s] "") ∧
      Relation.TransGen g.Expands [.rule outer] (front ++ .rule inner :: back) := by
  induction h with
  | single step =>
    obtain ⟨r, found, front, back, listed, empty⟩ := step
    exact ⟨front, back, empty, .single (.of_alternative found listed)⟩
  | tail _ step ih =>
    obtain ⟨before, after, emptyBefore, reached⟩ := ih
    obtain ⟨r, found, front, back, listed, empty⟩ := step
    refine ⟨before ++ front, back ++ after, ?_, reached.tail ?_⟩
    · exact List.forall_mem_append.2 ⟨emptyBefore, empty⟩
    · simpa using Expands.step before after found listed

/-- What follows a rule that stands alone is what follows the whole. -/
theorem followsIn_rule {starts : List LookaheadFact} {after : List (Option Char)} {name : String} :
    followsIn starts after [.rule name] = after.map (name, ·) := by
  simp [followsIn, nextBefore, startsOf]

theorem declared_of_transGen {name : String} {form : List Symbol}
    (h : Relation.TransGen g.Expands [.rule name] form) : name ∈ Keyed.names g.rules := by
  obtain ⟨_, first, -⟩ := Relation.TransGen.head'_iff.1 h
  obtain ⟨other, declared, inside⟩ := first.exists_declared
  cases List.mem_singleton.1 inside
  exact declared

namespace Accepted

variable {name : String} {form : List Symbol}

/-- All rules in the forms of a rule exist. -/
theorem declared_of_reaches (accepted : g.Accepted) (declared : name ∈ Keyed.names g.rules)
    (reached : g.Reaches [.rule name] form) {other : String} (inside : .rule other ∈ form) :
    other ∈ Keyed.names g.rules := by
  refine reached.forall_symbols
    (p := fun s => ∀ other, s = .rule other → other ∈ Keyed.names g.rules) ?_ ?_ _ inside other rfl
  · rintro name r member symbols listed _ inside other rfl
    exact accepted.defined name r member symbols listed other inside
  · rintro _ inside other rfl
    cases List.mem_singleton.1 inside
    exact declared

theorem spelled_of_reaches (accepted : g.Accepted) (reached : g.Reaches [.rule name] form) :
    Spelled form := by
  intro empty
  refine reached.forall_symbols (p := fun s => s ≠ .terminal "") ?_ ?_ _ empty rfl
  · rintro name r member symbols listed _ inside rfl
    exact accepted.spelledOut name r member symbols listed inside
  · rintro _ inside rfl
    cases List.mem_singleton.1 inside

/-- What comes behind a rule in a form of it begins with something that can follow the rule. -/
theorem continues_of_reaches (accepted : g.Accepted) (declared : name ∈ Keyed.names g.rules)
    {front back : List Symbol} (reached : g.Reaches [.rule name] (front ++ .rule name :: back))
    (behind : Forest g back) :
    Continues (factsAbout name (g.follows g.starts)) behind.text.toList := by
  intro c first
  have proper : Spelled back := fun empty => accepted.spelled_of_reaches reached (by simp [empty])
  have begins := head?_mem_startsOf accepted.spelledOut behind proper
  rw [first] at begins
  obtain ⟨text, rest, later, starts⟩ := mem_startsOf_iff.1 begins
  have placed := later.append_left (front ++ [.rule name])
  simp only [List.append_assoc, List.cons_append, List.nil_append] at placed
  rw [mem_factsAbout, mem_follows_iff declared]
  exact ⟨name, declared, front, text, rest, reached.trans placed, starts⟩

theorem not_leftRecursive (accepted : g.Accepted) {front back : List Symbol}
    (empty : ∀ s ∈ front, g.Derives [s] "") :
    ¬ Relation.TransGen g.Expands [.rule name] (front ++ .rule name :: back) := by
  intro reached
  have declared := declared_of_transGen reached
  have reaches : g.Reaches [.rule name] (front ++ .rule name :: back) := reached.to_reflTransGen
  have finite : ∃ text, g.Derives back text := by
    refine Grammar.exists_derives fun other inside => accepted.productive other ?_
    exact accepted.declared_of_reaches declared reaches (by simp [inside])
  obtain ⟨_, t, -⟩ := accepted.productive name declared
  obtain ⟨nothing, vanishes⟩ := derives_empty empty
  obtain ⟨_, behind, -⟩ := finite
  obtain ⟨whole, spelled, larger⟩ :=
    exists_forest_of_transGen reached (nothing.append (t.append behind))
  -- The tree and the larger one spell the same, up to what follows the rule.
  have same : t.text.toList ++ behind.text.toList = whole.text.toList ++ [] := by
    simp [spelled, vanishes]
  have equal : t = whole := by
    refine accepted.predictive.forest_eq accepted.spelledOut t whole (by simp [Spelled]) ?_
      (accepted.continues_of_reaches declared reaches behind) (by simp [Continues]) same
    intro fact follows _
    rw [followsIn_rule] at follows
    obtain ⟨x, known, rfl⟩ := List.mem_map.1 follows
    exact mem_factsAbout.1 known
  rw [equal] at larger
  simp only [Forest.size_append] at larger
  omega

end Accepted

/-- No rule of a compiled grammar has a form with the rule itself behind symbols that can all be
empty, so no rule hands on to itself, directly or by way of others, before anything is consumed. -/
theorem no_leftRecursion_of_ofConstraints {constraints : List Constraint} {g : Grammar}
    (compiled : ofConstraints constraints = .ok (some g)) :
    (∀ name front back, (∀ s ∈ front, g.Derives [s] "") →
      ¬ Relation.TransGen g.Expands [.rule name] (front ++ .rule name :: back)) ∧
    ∀ name, ¬ Relation.TransGen g.HandsOn name name := by
  have accepted := accepted_of_ofConstraints compiled
  refine ⟨fun name front back empty => accepted.not_leftRecursive empty, fun name again => ?_⟩
  obtain ⟨front, back, empty, reached⟩ := exists_transGen_of_handsOn again
  exact accepted.not_leftRecursive empty reached

/-- Lists whose members may stand with or without a comma between them. -/
def looseList : List Constraint :=
  [.ofProduction "list" .high "list" [[.terminal "x", .rule "more"]],
    .ofProduction "more" .high "more" [[], [.rule "gap", .rule "list"]],
    .ofProduction "gap" .high "gap" [[], [.terminal ","]]]

theorem no_leftRecursion_looseList : ∃ g, ofConstraints looseList = .ok (some g) ∧
    g.Derives [.rule "gap"] "" ∧ g.HandsOn "more" "list" ∧
    ¬ Relation.TransGen g.HandsOn "more" "more" ∧ ∀ back,
      ¬ Relation.TransGen g.Expands [.rule "list"] ([.rule "gap"] ++ .rule "list" :: back) := by
  have compiled : ofConstraints looseList = .ok (some _) := rfl
  have front {g : Grammar} (gap : g.Derives [.rule "gap"] "") :
      ∀ s ∈ [.rule "gap"], g.Derives [s] "" := by simpa using gap
  obtain ⟨forms, rules⟩ := no_leftRecursion_of_ofConstraints compiled
  refine ⟨_, compiled, ?gap, ⟨_, rfl, [.rule "gap"], [], ?listed, front ?gap⟩, rules "more",
    fun back => forms "list" [.rule "gap"] back (front ?gap)⟩
  case gap => exact ⟨.rule rfl ⟨0, by decide⟩ .nil .nil, rfl⟩
  case listed => decide

end Grammar

end GuidedDecoding
