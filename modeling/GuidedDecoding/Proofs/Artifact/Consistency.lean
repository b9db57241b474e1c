import GuidedDecoding.Compilation.Basic
import GuidedDecoding.Proofs.Grammar.Language
import GuidedDecoding.Proofs.TokenMask.Verdict
import GuidedDecoding.Regex.Compiled

/-!
# Fragments that fit together, in terms of what rules derive

The check of fragments against each other looks at the lists that expansion ends with. For fragments
that were compiled it finds a fault exactly when one of the four parts of `Fragments.FitTogether`
fails, which speaks of all texts that a rule derives.
-/

namespace GuidedDecoding

/-- The pattern is an expression, and what is made of it matches the value. -/
def NamedPattern.Matches [RegexLibrary] (p : NamedPattern) (value : String) : Prop :=
  ∃ program, RegexLibrary.compile p.pattern = .ok program ∧
    RegexLibrary.isMatch program value = true

namespace Fragments

/-- What fragments that make sense together have in common. Rules with more texts than a limit are
not held to types and patterns. -/
structure FitTogether [RegexLibrary] (f : Fragments) (limit : Nat) : Prop where
  declaredPatterns : ∀ schema ∈ f.schema, ∀ set ∈ f.patterns, ∀ p ∈ set.patterns,
    ∃ slot, schema.lookup p.field = some slot
  typedRules : ∀ grammar ∈ f.grammar, ∀ schema ∈ f.schema,
    ∀ field name rule, (field, name, rule) ∈ grammar.boundRules →
      ∃ slot, schema.lookup field = some slot ∧
        ((grammar.language [.rule name]).encard ≤ limit →
          ∀ text ∈ grammar.language [.rule name], slot.type.admits text = true)
  matchedRules : ∀ grammar ∈ f.grammar, ∀ set ∈ f.patterns,
    ∀ field name rule, (field, name, rule) ∈ grammar.boundRules →
      (grammar.language [.rule name]).encard ≤ limit →
        ∀ text ∈ grammar.language [.rule name], ∀ p ∈ set.forField field, p.Matches text
  permittedTerminals : ∀ grammar ∈ f.grammar, ∀ mask ∈ f.mask,
    ∀ name rule, (name, rule) ∈ grammar.rules →
      ∀ text ∈ rule.terminals, ∀ r ∈ mask.rules, r.Permits text

theorem compare?_eq_none_iff {α β : Type} {check : α → β → Option CompileError} {x : Option α}
    {y : Option β} : compare? check x y = none ↔ ∀ a ∈ x, ∀ b ∈ y, check a b = none := by
  cases x with
  | none => simp [compare?]
  | some a =>
    cases y with
    | none => simp [compare?]
    | some b => simp [compare?]

theorem undeclaredPattern?_eq_none_iff {schema : Schema} {set : PatternSet} :
    undeclaredPattern? schema set = none ↔
      ∀ p ∈ set.patterns, ∃ slot, schema.lookup p.field = some slot := by
  simp [undeclaredPattern?, Option.ne_none_iff_exists']

theorem misfit?_eq_none_iff {field name : String} {rule : GrammarRule} {slot : SchemaField}
    {language : NameSet} :
    misfit? field name rule slot language = none ↔
      ∀ text ∈ language, slot.type.admits text = true := by
  simp [misfit?, NameSet.mem_def]

theorem mismatch?_eq_none_iff [RegexLibrary] {field name : String} {rule : GrammarRule}
    {language : NameSet} {p : NamedPattern} {program : RegexLibrary.Program}
    (compiled : RegexLibrary.compile p.pattern = .ok program) :
    mismatch? field name rule language p = none ↔ ∀ text ∈ language, p.Matches text := by
  simp [mismatch?, NamedPattern.Matches, compiled, NameSet.mem_def]

/-- Bound rules are rules. -/
theorem mem_rules_of_mem_boundRules {grammar : Grammar} {field name : String} {rule : GrammarRule}
    (h : (field, name, rule) ∈ grammar.boundRules) : (name, rule) ∈ grammar.rules := by
  obtain ⟨⟨k, r⟩, member, bound⟩ := List.mem_filterMap.1 h
  obtain ⟨_, -, same⟩ := Option.map_eq_some_iff.1 bound
  cases same
  exact member

theorem declared_of_mem_boundRules {grammar : Grammar} {field name : String} {rule : GrammarRule}
    (h : (field, name, rule) ∈ grammar.boundRules) : name ∈ Keyed.names grammar.rules :=
  List.mem_map_of_mem (mem_rules_of_mem_boundRules h)

variable {grammar : Grammar} {limit : Nat}

theorem mistyped?_eq_none_iff (accepted : grammar.Accepted) {schema : Schema} :
    mistyped? limit grammar schema = none ↔
      ∀ field name rule, (field, name, rule) ∈ grammar.boundRules →
        ∃ slot, schema.lookup field = some slot ∧
          ((grammar.language [.rule name]).encard ≤ limit →
            ∀ text ∈ grammar.language [.rule name], slot.type.admits text = true) := by
  simp only [mistyped?, List.findSome?_eq_none_iff, Prod.forall]
  refine forall₄_congr fun field name rule bound => ?_
  cases found : schema.lookup field with
  | none => simp
  | some slot =>
    simp only [Option.bind_eq_none_iff, misfit?_eq_none_iff, Option.some.injEq, exists_eq_left']
    exact accepted.forall_finiteLanguage_iff (declared_of_mem_boundRules bound) _

section

variable [RegexLibrary]

theorem rejected?_eq_none_iff (accepted : grammar.Accepted) {set : PatternSet}
    (recompiles : ∀ p ∈ set.patterns, ∃ program,
      RegexLibrary.compile p.pattern = .ok program) :
    rejected? limit grammar set = none ↔
      ∀ field name rule, (field, name, rule) ∈ grammar.boundRules →
        (grammar.language [.rule name]).encard ≤ limit →
          ∀ text ∈ grammar.language [.rule name], ∀ p ∈ set.forField field, p.Matches text := by
  simp only [rejected?, List.findSome?_eq_none_iff, Prod.forall]
  refine forall₄_congr fun field name rule bound => ?_
  rw [← accepted.forall_finiteLanguage_iff (declared_of_mem_boundRules bound)]
  have compiled : ∀ p ∈ set.forField field, ∃ program,
      RegexLibrary.compile p.pattern = .ok program :=
    fun p onField => recompiles p (List.mem_filter.1 onField).1
  split
  · next noPattern => simp [noPattern]
  · simp only [Option.bind_eq_none_iff, List.findSome?_eq_none_iff]
    refine forall₂_congr fun l listed => ?_
    constructor
    · intro clear text member p onField
      obtain ⟨program, fine⟩ := compiled p onField
      exact (mismatch?_eq_none_iff fine).1 (clear p onField) text member
    · intro clear p onField
      obtain ⟨program, fine⟩ := compiled p onField
      exact (mismatch?_eq_none_iff fine).2 fun text member => clear text member p onField

theorem forbidden?_eq_none_iff {mask : TokenMask} {rules : List ReadyRule}
    (ready : mask.ready = .ok rules) :
    forbidden? grammar mask = none ↔
      ∀ name rule, (name, rule) ∈ grammar.rules →
        ∀ text ∈ rule.terminals, ∀ r ∈ mask.rules, r.Permits text := by
  simp only [forbidden?, ready, List.findSome?_eq_none_iff, Option.map_eq_none_iff,
    ReadyRule.blocker?_verdict_eq_none_iff, TokenMask.forall_permits_iff ready, Prod.forall]

theorem ofConstraints_eq_ok_iff {config : CompilerConfig} {constraints : List Constraint}
    {f : Fragments} :
    ofConstraints config constraints = .ok f ↔
      Schema.ofConstraints constraints = .ok f.schema ∧
      Grammar.ofConstraints constraints = .ok f.grammar ∧
      PatternSet.ofConstraints config.effectiveSizeLimit constraints = .ok f.patterns ∧
      TokenMask.ofConstraints constraints = .ok f.mask := by
  obtain ⟨schema, grammar, patterns, mask⟩ := f
  simp only [ofConstraints, Outcome.bind_eq_ok_iff]
  constructor
  · rintro ⟨_, hSchema, _, hGrammar, _, hPatterns, _, hMask, same⟩
    cases same
    exact ⟨hSchema, hGrammar, hPatterns, hMask⟩
  · rintro ⟨hSchema, hGrammar, hPatterns, hMask⟩
    exact ⟨_, hSchema, _, hGrammar, _, hPatterns, _, hMask, rfl⟩

/-- Fragments of constraints are found to be without fault exactly when they fit together. -/
theorem fault?_eq_none_iff_fitTogether {config : CompilerConfig} {constraints : List Constraint}
    {f : Fragments} (compiled : ofConstraints config constraints = .ok f)
    (recompiles : ∀ set ∈ f.patterns, ∀ p ∈ set.patterns, ∃ program,
      RegexLibrary.compile p.pattern = .ok program) (limit : Nat) :
    f.fault? limit = none ↔ f.FitTogether limit := by
  obtain ⟨-, compiledGrammar, -, compiledMask⟩ := ofConstraints_eq_ok_iff.1 compiled
  have accepted : ∀ grammar ∈ f.grammar, grammar.Accepted := by
    intro grammar present
    rw [Option.mem_def.1 present] at compiledGrammar
    exact Grammar.accepted_of_ofConstraints compiledGrammar
  have ready : ∀ mask ∈ f.mask, ∃ rules, mask.ready = .ok rules := by
    intro mask present
    rw [Option.mem_def.1 present] at compiledMask
    exact TokenMask.exists_ready_of_ofConstraints compiledMask
  simp only [fault?, Option.orElse_eq_orElse, Option.orElse_eq_or, Option.or_eq_none_iff,
    compare?_eq_none_iff]
  constructor
  · rintro ⟨undeclared, typed, matched, permitted⟩
    exact {
      declaredPatterns := fun schema hs set hp =>
        undeclaredPattern?_eq_none_iff.1 (undeclared schema hs set hp)
      typedRules := fun grammar hg schema hs =>
        (mistyped?_eq_none_iff (accepted grammar hg)).1 (typed grammar hg schema hs)
      matchedRules := fun grammar hg set hp =>
        (rejected?_eq_none_iff (accepted grammar hg) (recompiles set hp)).1
          (matched grammar hg set hp)
      permittedTerminals := by
        intro grammar hg mask hm
        obtain ⟨rules, fine⟩ := ready mask hm
        exact (forbidden?_eq_none_iff fine).1 (permitted grammar hg mask hm) }
  · intro fit
    refine ⟨fun schema hs set hp => ?_, fun grammar hg schema hs => ?_,
      fun grammar hg set hp => ?_, fun grammar hg mask hm => ?_⟩
    · exact undeclaredPattern?_eq_none_iff.2 (fit.declaredPatterns schema hs set hp)
    · exact (mistyped?_eq_none_iff (accepted grammar hg)).2 (fit.typedRules grammar hg schema hs)
    · exact (rejected?_eq_none_iff (accepted grammar hg) (recompiles set hp)).2
        (fit.matchedRules grammar hg set hp)
    · obtain ⟨rules, fine⟩ := ready mask hm
      exact (forbidden?_eq_none_iff fine).2 (fit.permittedTerminals grammar hg mask hm)

end

/-- A field of three possible amounts, not all of which match a pattern for one digit. -/
def shortAmounts : List Constraint :=
  [.ofField "type" .high "amount" .integer,
    { Constraint.ofProduction "amount" .high "amount"
        [[.terminal "1"], [.terminal "2", .rule "digit"]] with
      payload := .production "amount" [[.terminal "1"], [.terminal "2", .rule "digit"]] "amount" },
    .ofProduction "digit" .high "digit" [[.terminal "0"], [.terminal "5"]],
    .ofRegex "digits" .high "amount" "[0-9]",
    .ofTokenRule "sign" .high .deny (.startingWith "-")]

/-- All three amounts count as long as the limit is three. -/
theorem fitTogether_shortAmounts :
    ∃ f, ofConstraints {} shortAmounts = .ok f ∧ f.FitTogether 2 ∧ ¬ f.FitTogether 3 := by
  have compiled : ofConstraints {} shortAmounts = .ok _ := rfl
  have recompiles : ∀ p ∈ [NamedPattern.mk "amount" "^(?:[0-9])$" "[0-9]" "digits"],
      ∃ program, RegexLibrary.compile p.pattern = .ok program := by
    intro p member
    rw [List.mem_singleton] at member
    rw [member]
    exact ⟨_, rfl⟩
  have decides := fault?_eq_none_iff_fitTogether compiled (by rintro _ ⟨⟩; exact recompiles)
  refine ⟨_, compiled, (decides 2).1 rfl, fun fit => ?_⟩
  exact absurd ((decides 3).2 fit) (by decide)

end Fragments

end GuidedDecoding
