import GuidedDecoding.Proofs.Compilation.Accounting
import GuidedDecoding.Proofs.Grammar.Blame
import GuidedDecoding.Proofs.Schema.Blame

/-!
# Every error of compilation blames members of the set

A set that does not compile fails at one of its stages, and whatever the stage, the error names
members of the set: at least one, and nobody else. Only a member that refers to something outside
the set is blamed for a reference (`ConstraintSet.blames_of_compile`).
-/

namespace GuidedDecoding

/-- An error that blames members of a set, and for a reference the member that has it. -/
structure ConstraintSet.Blames (s : ConstraintSet) (e : CompileError) : Prop where
  named : e.ids ≠ []
  members : ∀ id ∈ e.ids, id ∈ s.ids
  dangling : ∀ id missing, e = .danglingReference id missing →
    ¬ missing ∈ s.ids ∧ ∃ c ∈ s.members, c.id = id ∧
      (missing ∈ c.dependsOn ∨ missing ∈ c.conflictsWith)

/-! ### Patterns and masks -/

section

variable {limit : Nat} {c : Constraint} {l : List Constraint} {e : CompileError}

/-- Where each constraint that is not accepted is blamed itself, some constraint is blamed when
not all of them are accepted. -/
theorem CompileError.concerns_of_mapM {β : Type} {f : Constraint → Except CompileError β}
    {targeted : List Constraint} (each : ∀ c e, f c = .error e → e.Concerns (· = c.id))
    (among : ∀ c ∈ targeted, c ∈ l) (h : targeted.mapM f = .error e) :
    e.Concerns fun id => ∃ c ∈ l, c.id = id := by
  obtain ⟨c, inside, failed⟩ := Outcome.exists_of_mapM_eq_error h
  exact (each c e failed).mono fun id same => ⟨c, among c inside, same.symm⟩

variable [RegexLibrary]

theorem NamedPattern.concerns_of_ofConstraint (h : ofConstraint limit c = .error e) :
    e.Concerns (· = c.id) := by
  unfold ofConstraint at h
  split at h
  · split at h
    · cases h
      exact CompileError.concerns_invalidConstraint rfl
    · split at h
      · cases h
        exact CompileError.concerns_invalidPattern rfl
      · split at h <;> cases h
        exact CompileError.concerns_invalidPattern rfl
  · cases h
    exact CompileError.concerns_invalidConstraint rfl

theorem MaskRule.concerns_of_ofConstraint (h : ofConstraint c = .error e) :
    e.Concerns (· = c.id) := by
  unfold ofConstraint at h
  split at h
  · split at h
    · split at h <;> cases h
      exact CompileError.concerns_invalidConstraint rfl
    · split at h <;> cases h
      exact CompileError.concerns_invalidConstraint rfl
    · split at h <;> cases h
      exact CompileError.concerns_invalidPattern rfl
  · cases h
    exact CompileError.concerns_invalidConstraint rfl

theorem PatternSet.concerns_of_ofConstraints (h : ofConstraints limit l = .error e) :
    e.Concerns fun id => ∃ c ∈ l, c.id = id := by
  unfold ofConstraints at h
  split at h
  · cases h
  · rw [Outcome.map_eq_error_iff] at h
    exact CompileError.concerns_of_mapM (fun _ _ => NamedPattern.concerns_of_ofConstraint)
      (fun _ => List.mem_of_mem_filter) h

theorem TokenMask.concerns_of_ofConstraints (h : ofConstraints l = .error e) :
    e.Concerns fun id => ∃ c ∈ l, c.id = id := by
  unfold ofConstraints at h
  split at h
  · cases h
  · rw [Outcome.map_eq_error_iff] at h
    exact CompileError.concerns_of_mapM (fun _ _ => MaskRule.concerns_of_ofConstraint)
      (fun _ => List.mem_of_mem_filter) h

end

/-! ### Fragments that do not fit together -/

namespace Fragments

variable {config : CompilerConfig} {l : List Constraint} {f : Fragments} {limit : Nat}
  {grammar : Grammar} {schema : Schema} {set : PatternSet} {mask : TokenMask} {e : CompileError}

theorem concerns_inconsistent {p : String → Prop} {sources : List String} {reason : String}
    (blamed : ∃ id, id ∈ sources) (each : ∀ id ∈ sources, p id) :
    (inconsistent sources reason).Concerns p :=
  CompileError.concerns_inconsistent (blamed.imp fun _ => NameSet.mem_ofList.2)
    fun id listed => each id (NameSet.mem_ofList.1 listed)

theorem concerns_of_undeclaredPattern? (h : undeclaredPattern? schema set = some e) :
    e.Concerns (· ∈ set.patterns.map NamedPattern.source) := by
  obtain ⟨p, found, rfl⟩ := Option.map_eq_some_iff.1 h
  have own : p.source ∈ set.patterns.map NamedPattern.source :=
    List.mem_map_of_mem (List.mem_of_find?_eq_some found)
  exact concerns_inconsistent ⟨_, List.mem_singleton_self _⟩ fun id listed =>
    List.mem_singleton.1 listed ▸ own

/-- What is said of a rule blames its sources, and perhaps somebody else with them. -/
theorem concerns_with_sources {name : String} {rule : GrammarRule} {p : String → Prop}
    {others : List String} {reason : String} (member : (name, rule) ∈ grammar.rules)
    (sourced : ∃ id, id ∈ rule.sources) (each : ∀ id ∈ others, p id) :
    (inconsistent (rule.sources.toList ++ others) reason).Concerns fun id =>
      id ∈ grammar.sources ∨ p id := by
  refine concerns_inconsistent (sourced.imp fun _ => List.mem_append_left _) fun id listed => ?_
  rcases List.mem_append.1 listed with own | other
  · exact .inl (List.mem_flatMap.2 ⟨_, member, own⟩)
  · exact .inr (each id other)

section

variable (sourced : ∀ name r, (name, r) ∈ grammar.rules → ∃ id, id ∈ r.sources)

include sourced

theorem concerns_of_mistyped? (h : mistyped? limit grammar schema = some e) :
    e.Concerns fun id => id ∈ grammar.sources ∨ id ∈ schema.sources := by
  obtain ⟨⟨field, name, rule⟩, bound, wrong⟩ := List.exists_of_findSome?_eq_some h
  have member := mem_rules_of_mem_boundRules bound
  have blamed := sourced name rule member
  simp only at wrong
  split at wrong
  · cases wrong
    rw [← List.append_nil rule.sources.toList]
    exact concerns_with_sources member blamed fun _ listed => absurd listed List.not_mem_nil
  · next slot there =>
    obtain ⟨language, -, misfit⟩ := Option.bind_eq_some_iff.1 wrong
    obtain ⟨value, -, rfl⟩ := Option.map_eq_some_iff.1 misfit
    exact concerns_with_sources member blamed fun _ => Schema.mem_sources_of_lookup there

theorem concerns_of_rejected? [RegexLibrary] (h : rejected? limit grammar set = some e) :
    e.Concerns fun id => id ∈ grammar.sources ∨ id ∈ set.patterns.map NamedPattern.source := by
  obtain ⟨⟨field, name, rule⟩, bound, wrong⟩ := List.exists_of_findSome?_eq_some h
  have member := mem_rules_of_mem_boundRules bound
  simp only at wrong
  split at wrong
  · cases wrong
  · obtain ⟨language, -, clash⟩ := Option.bind_eq_some_iff.1 wrong
    obtain ⟨p, onField, clash⟩ := List.exists_of_findSome?_eq_some clash
    have own : p.source ∈ set.patterns.map NamedPattern.source :=
      List.mem_map_of_mem (List.mem_of_mem_filter onField)
    unfold mismatch? at clash
    split at clash
    · cases clash
      exact CompileError.concerns_invalidPattern (.inr own)
    · obtain ⟨value, -, rfl⟩ := Option.map_eq_some_iff.1 clash
      exact concerns_with_sources member (sourced name rule member) fun _ listed =>
        List.mem_singleton.1 listed ▸ own

theorem concerns_of_forbidden? [RegexLibrary] {rules : List ReadyRule}
    (ready : mask.ready = .ok rules) (h : forbidden? grammar mask = some e) :
    e.Concerns fun id => id ∈ grammar.sources ∨ id ∈ mask.rules.map MaskRule.source := by
  simp only [forbidden?, ready] at h
  obtain ⟨⟨name, rule⟩, member, inRule⟩ := List.exists_of_findSome?_eq_some h
  obtain ⟨text, -, forbidden⟩ := List.exists_of_findSome?_eq_some inRule
  obtain ⟨blocker, verdict, rfl⟩ := Option.map_eq_some_iff.1 forbidden
  obtain ⟨r, active, rfl⟩ := ReadyRule.exists_of_blocker?_verdict verdict
  have own : r.source ∈ mask.rules.map MaskRule.source :=
    TokenMask.sources_of_ready ready ▸ List.mem_map_of_mem active
  exact concerns_with_sources member (sourced name rule member) fun _ listed =>
    List.mem_singleton.1 listed ▸ own

end

theorem exists_of_compare?_eq_some {α β : Type} {check : α → β → Option CompileError}
    {x : Option α} {y : Option β} (h : compare? check x y = some e) :
    ∃ a b, x = some a ∧ y = some b ∧ check a b = some e := by
  cases x with
  | none => cases h
  | some a =>
    cases y with
    | none => cases h
    | some b => exact ⟨a, b, rfl, rfl, h⟩

/-- Whoever a fragment of constraints names is one of them. -/
theorem exists_of_mem_named [RegexLibrary] (compiled : ofConstraints config l = .ok f)
    {kind : Enforcement} (other : kind ≠ .advisory) {id : String} (h : id ∈ f.named kind) :
    ∃ c ∈ l, c.id = id := by
  obtain ⟨c, selected, same⟩ := List.mem_map.1 ((mem_named_iff compiled other).1 h)
  exact ⟨c, List.mem_of_mem_filter selected, same⟩

/-- Fragments of constraints that do not fit together blame some of them. -/
theorem concerns_of_fault? [RegexLibrary] (compiled : ofConstraints config l = .ok f)
    (fault : f.fault? limit = some e) : e.Concerns fun id => ∃ c ∈ l, c.id = id := by
  have inSchema : ∀ schema, f.schema = some schema → ∀ id ∈ schema.sources,
      ∃ c ∈ l, c.id = id := fun schema there id listed =>
    exists_of_mem_named compiled (by decide : Enforcement.schema ≠ .advisory)
      (by rw [named, there]; exact listed)
  have inGrammar : ∀ grammar, f.grammar = some grammar → ∀ id ∈ grammar.sources,
      ∃ c ∈ l, c.id = id := fun grammar there id listed =>
    exists_of_mem_named compiled (by decide : Enforcement.grammar ≠ .advisory)
      (by rw [named, there]; exact listed)
  have inPatterns : ∀ set, f.patterns = some set → ∀ id ∈ set.patterns.map NamedPattern.source,
      ∃ c ∈ l, c.id = id := fun set there id listed =>
    exists_of_mem_named compiled (by decide : Enforcement.regex ≠ .advisory)
      (by rw [named, there]; exact listed)
  have inMask : ∀ mask, f.mask = some mask → ∀ id ∈ mask.rules.map MaskRule.source,
      ∃ c ∈ l, c.id = id := fun mask there id listed =>
    exists_of_mem_named compiled (by decide : Enforcement.tokenMask ≠ .advisory)
      (by rw [named, there]; exact listed)
  obtain ⟨-, ofGrammar, -, ofMask⟩ := ofConstraints_eq_ok_iff.1 compiled
  have sourced : ∀ grammar, f.grammar = some grammar → ∀ name r, (name, r) ∈ grammar.rules →
      ∃ id, id ∈ r.sources := fun grammar there name r member =>
    Grammar.exists_source_of_ofConstraints (there ▸ ofGrammar) member
  simp only [fault?, Option.orElse_eq_orElse, Option.orElse_eq_or, Option.or_eq_some_iff] at fault
  rcases fault with undeclared | ⟨-, mistyped | ⟨-, rejected | ⟨-, forbidden⟩⟩⟩
  · obtain ⟨schema, set, -, patterns, wrong⟩ := exists_of_compare?_eq_some undeclared
    exact (concerns_of_undeclaredPattern? wrong).mono (inPatterns set patterns)
  · obtain ⟨grammar, schema, rules, fields, wrong⟩ := exists_of_compare?_eq_some mistyped
    exact (concerns_of_mistyped? (sourced grammar rules) wrong).mono fun id =>
      Or.rec (inGrammar grammar rules id) (inSchema schema fields id)
  · obtain ⟨grammar, set, rules, patterns, wrong⟩ := exists_of_compare?_eq_some rejected
    exact (concerns_of_rejected? (sourced grammar rules) wrong).mono fun id =>
      Or.rec (inGrammar grammar rules id) (inPatterns set patterns id)
  · obtain ⟨grammar, mask, rules, present, wrong⟩ := exists_of_compare?_eq_some forbidden
    obtain ⟨active, ready⟩ := TokenMask.exists_ready_of_ofConstraints (present ▸ ofMask)
    exact (concerns_of_forbidden? (sourced grammar rules) ready wrong).mono fun id =>
      Or.rec (inGrammar grammar rules id) (inMask mask present id)

theorem concerns_of_ofConstraints [RegexLibrary] (h : ofConstraints config l = .error e) :
    e.Concerns fun id => ∃ c ∈ l, c.id = id := by
  rcases Outcome.bind_eq_error_iff.1 h with failed | ⟨_, -, h⟩
  · exact Schema.concerns_of_ofConstraints failed
  · rcases Outcome.bind_eq_error_iff.1 h with failed | ⟨_, -, h⟩
    · exact Grammar.concerns_of_ofConstraints failed
    · rcases Outcome.bind_eq_error_iff.1 h with failed | ⟨_, -, h⟩
      · exact PatternSet.concerns_of_ofConstraints failed
      · rcases Outcome.bind_eq_error_iff.1 h with failed | ⟨_, -, never⟩
        · exact TokenMask.concerns_of_ofConstraints failed
        · cases never

end Fragments

/-! ### Cycles and conflicts -/

namespace ConstraintGraph

variable {g : ConstraintGraph} {e : CompileError}

/-- A graph without an order has members on a cycle, which are blamed. -/
theorem concerns_of_order (h : g.order = .error e) :
    e.Concerns fun id => ∃ c ∈ g.nodes, c.id = id := by
  have cyclic : ¬ g.Acyclic := by
    intro acyclic
    obtain ⟨order, found, -⟩ := order_of_acyclic acyclic
    cases found.symm.trans h
  cases (order_of_cyclic cyclic).symm.trans h
  obtain ⟨c, back⟩ : ∃ c, Relation.TransGen g.DependsOn c c := by simpa [Acyclic] using cyclic
  have listed : c.id ∈ g.onCycle.map Constraint.id := List.mem_map_of_mem (mem_onCycle_iff.2 back)
  refine ⟨List.ne_nil_of_mem listed, fun id member => ?_, by simp⟩
  obtain ⟨d, cycle, same⟩ := List.mem_map.1 member
  exact ⟨d, List.mem_of_mem_filter cycle, same⟩

theorem concerns_of_demotions (h : g.demotions = .error e) :
    e.Concerns fun id => ∃ c ∈ g.nodes, c.id = id := by
  rcases g.demotions_eq with ⟨final, done, -⟩ | ⟨c, d, tied, failed⟩
  · cases done.symm.trans h
  · cases failed.symm.trans h
    refine ⟨List.cons_ne_nil _ _, fun id listed => ?_, by simp⟩
    rcases List.mem_pair.1 listed with rfl | rfl
    · exact ⟨c, tied.1.mem, rfl⟩
    · exact ⟨d, tied.2.1.mem, rfl⟩

end ConstraintGraph

namespace Resolution

variable {config : CompilerConfig} {g : ConstraintGraph} {r : Resolution} {source : Fingerprint}
  {e : CompileError}

theorem concerns_of_ofGraph (h : ofGraph g = .error e) :
    e.Concerns fun id => ∃ c ∈ g.nodes, c.id = id := by
  rcases Outcome.bind_eq_error_iff.1 h with cyclic | ⟨order, -, h⟩
  · exact ConstraintGraph.concerns_of_order cyclic
  · rcases Outcome.bind_eq_error_iff.1 h with tied | ⟨demotions, -, never⟩
    · exact ConstraintGraph.concerns_of_demotions tied
    · cases never

theorem concerns_of_compile [RegexLibrary] (h : r.compile config source = .error e) :
    e.Concerns fun id => ∃ c ∈ r.ordered, c.id = id := by
  rcases Outcome.bind_eq_error_iff.1 h with failed | ⟨fragments, made, h⟩
  · exact Fragments.concerns_of_ofConstraints failed
  · unfold Artifact.assemble at h
    split at h
    · next fault =>
      cases h
      exact Fragments.concerns_of_fault? made fault
    · cases h

end Resolution

/-! ### Sets -/

namespace ConstraintSet

variable {config : CompilerConfig} {s : ConstraintSet} {e : CompileError}

theorem blames_of_concerns (h : e.Concerns fun id => ∃ c ∈ s.members, c.id = id) : s.Blames e where
  named := h.named
  members := fun id listed => List.mem_map.2 (h.within id listed)
  dangling := fun id missing same => absurd same (h.inside id missing)

theorem blames_of_fault? (h : s.fault? = some e) : s.Blames e := by
  rcases Option.or_eq_some_iff.1 h with invalid | ⟨-, dangling⟩
  · obtain ⟨c, member, wrong⟩ := List.exists_of_findSome?_eq_some invalid
    obtain ⟨reason, -, rfl⟩ := Option.map_eq_some_iff.1 wrong
    exact blames_of_concerns (CompileError.concerns_invalidConstraint ⟨c, member, rfl⟩)
  · obtain ⟨c, member, wrong⟩ := List.exists_of_findSome?_eq_some dangling
    obtain ⟨missing, refers, rfl⟩ := Option.map_eq_some_iff.1 wrong
    have outside : ¬ missing ∈ s.ids := by
      simpa [← contains_iff] using List.find?_some refers
    refine ⟨List.cons_ne_nil _ _, fun id listed => ?_, ?_⟩
    · exact List.mem_singleton.1 listed ▸ List.mem_map_of_mem member
    · rintro id other ⟨⟩
      exact ⟨outside, c, member, rfl, List.mem_append.1 (List.mem_of_find?_eq_some refers)⟩

/-- Whatever a set does not compile for, members of it are to blame. -/
theorem blames_of_compile [RegexLibrary] (h : s.compile config = .error e) : s.Blames e := by
  cases fault : s.fault? with
  | some found =>
    cases (compile_of_fault fault).symm.trans h
    exact blames_of_fault? fault
  | none =>
    rw [compile_of_sound fault] at h
    rcases Outcome.bind_eq_error_iff.1 h with failed | ⟨r, resolved, failed⟩
    · exact blames_of_concerns (Resolution.concerns_of_ofGraph failed)
    · refine blames_of_concerns ((Resolution.concerns_of_compile failed).mono fun id named => ?_)
      obtain ⟨c, stays, same⟩ := named
      exact ⟨c, ((Resolution.mem_ordered_of_ofGraph resolved).1 stays).1, same⟩

/-- An answer that waits for a field that nobody declares. -/
def waitingAnswer : ConstraintSet where
  members := [
    (Constraint.ofField "answer" .high "answer" .string).dependingOn "question",
    .ofField "score" .low "score" .integer]
  sorted := by decide

theorem blames_waitingAnswer : ∃ e, waitingAnswer.compile {} = .error e ∧ e.ids = ["answer"] ∧
    ¬ "question" ∈ waitingAnswer.ids := by
  have fault : waitingAnswer.fault? = some (.danglingReference "answer" "question") := rfl
  have failed : waitingAnswer.compile {} = .error _ := compile_of_fault fault
  exact ⟨_, failed, rfl, ((blames_of_compile failed).dangling _ _ rfl).1⟩

end ConstraintSet

end GuidedDecoding
