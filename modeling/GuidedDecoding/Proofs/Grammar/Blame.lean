import GuidedDecoding.Proofs.Error.Blame
import GuidedDecoding.Proofs.Grammar.Accepted
import GuidedDecoding.Proofs.Grammar.Sources
import GuidedDecoding.Proofs.NameSet

/-!
# Whom a grammar that is not accepted blames

Whoever answers for an alternative or for the field of a rule is a source of the rule, and a rule
has a source. So whatever is wrong with merged rules is blamed on constraints that they come from.
-/

namespace GuidedDecoding

/-! ### Ambiguities -/

namespace Choice

variable {after : List (Option Char)} {choices : List Choice} {a : Ambiguity}

theorem alternatives_of_sharedStart? (h : sharedStart? choices = some a) :
    a.alternatives ≠ [] ∧ ∀ x ∈ a.alternatives, x ∈ choices.map Choice.alternative := by
  induction choices with
  | nil => cases h
  | cons c rest ih =>
    simp only [sharedStart?] at h
    split at h
    · next found hit =>
      cases h
      obtain ⟨d, member, hit⟩ := List.exists_of_findSome?_eq_some hit
      obtain ⟨next, -, rfl⟩ := Option.map_eq_some_iff.1 hit
      refine ⟨List.cons_ne_nil _ _, fun x listed => ?_⟩
      rcases List.mem_pair.1 listed with rfl | rfl
      · exact List.mem_cons_self
      · exact List.mem_cons_of_mem _ (List.mem_map_of_mem member)
    · obtain ⟨some_there, each⟩ := ih h
      exact ⟨some_there, fun x listed => List.mem_cons_of_mem _ (each x listed)⟩

/-- An ambiguity is between some of the alternatives. -/
theorem alternatives_of_ambiguity? (h : ambiguity? after choices = some a) :
    a.alternatives ≠ [] ∧ ∀ x ∈ a.alternatives, x ∈ choices.map Choice.alternative := by
  have chosen : ∀ c ∈ choices.filter isEmpty, c.alternative ∈ choices.map Choice.alternative :=
    fun c member => List.mem_map_of_mem (List.mem_of_mem_filter member)
  unfold ambiguity? at h
  split at h
  · next shared =>
    cases h
    exact alternatives_of_sharedStart? shared
  · split at h
    · cases h
    · next empty only =>
      obtain ⟨c, member, hit⟩ := List.exists_of_findSome?_eq_some h
      obtain ⟨next, -, rfl⟩ := Option.map_eq_some_iff.1 hit
      refine ⟨List.cons_ne_nil _ _, fun x listed => ?_⟩
      rcases List.mem_pair.1 listed with rfl | rfl
      · exact chosen empty (only ▸ List.mem_singleton_self _)
      · exact List.mem_map_of_mem (List.mem_of_mem_filter member)
    · next some_there _ =>
      cases h
      refine ⟨by simpa [Ambiguity.alternatives] using some_there, fun x listed => ?_⟩
      obtain ⟨c, member, rfl⟩ := List.mem_map.1 listed
      exact chosen c member

end Choice

/-- An ambiguity blames whoever the alternatives come from that it is between. -/
theorem Ambiguity.concerns_toError {a : Ambiguity} {rule : String} {p : String → Prop}
    (some_there : a.alternatives ≠ []) (each : ∀ x ∈ a.alternatives, p x.source) :
    (a.toError rule).Concerns p := by
  have sources : ∀ id, id ∈ (a.toError rule).ids ↔ ∃ x ∈ a.alternatives, x.source = id :=
    fun id => NameSet.mem_ofList.trans List.mem_map
  obtain ⟨x, first⟩ := List.exists_mem_of_ne_nil _ some_there
  refine ⟨List.ne_nil_of_mem ((sources _).2 ⟨x, first, rfl⟩), fun id named => ?_, ?_⟩
  · obtain ⟨x, inQuestion, rfl⟩ := (sources id).1 named
    exact each x inQuestion
  · simp [toError]

/-! ### Who answers for a rule -/

/-- Who answers for part of a rule is a source of it. -/
structure MergedRule.Answered (m : MergedRule) : Prop where
  listed : ∀ a ∈ m.alternatives, a.source ∈ m.sources
  bound : ∀ b ∈ m.binding, b.source ∈ m.sources

namespace MergedRule

variable {m merged : MergedRule} {rule source : String} {alternatives : List (List Symbol)}
  {field : Option String} {e : CompileError}

theorem answered_empty : ({} : MergedRule).Answered :=
  ⟨fun _ listed => absurd listed List.not_mem_nil, fun _ bound => absurd bound (by simp)⟩

theorem source_of_mem_foldl_list {a : ListedAlternative}
    (h : a ∈ (alternatives.foldl (list source) m).alternatives) :
    a ∈ m.alternatives ∨ a.source = source := by
  induction alternatives generalizing m with
  | nil => exact .inl h
  | cons symbols rest ih =>
    rcases ih h with listed | own
    · unfold list at listed
      split at listed
      · exact .inl listed
      · rcases List.mem_append.1 listed with old | new
        · exact .inl old
        · exact .inr (by rw [List.mem_singleton.1 new])
    · exact .inr own

theorem source_of_bind {bound : Option FieldBinding} {b : FieldBinding}
    (h : bind rule source bound field = .ok (some b)) : bound = some b ∨ b.source = source := by
  unfold bind at h
  split at h
  · exact .inl (Except.ok.inj h)
  · cases h
    exact .inr rfl
  · split at h <;> cases h
    exact .inl rfl

/-- Merging a production keeps everything answered for. -/
theorem Answered.add (h : m.Answered) (added : m.add rule source alternatives field = .ok merged) :
    merged.Answered ∧ source ∈ merged.sources := by
  obtain ⟨binding, bound, same⟩ := Outcome.bind_eq_ok_iff.1 added
  cases same
  have own : source ∈ m.sources.insert source := NameSet.mem_insert.2 (.inl rfl)
  have kept : ∀ id ∈ m.sources, id ∈ m.sources.insert source :=
    fun id old => NameSet.mem_insert.2 (.inr old)
  refine ⟨⟨fun a listed => ?_, fun b binds => ?_⟩, own⟩
  · rcases source_of_mem_foldl_list listed with old | new
    · exact kept _ (h.listed a old)
    · exact new ▸ own
  · have binds : binding = some b := binds
    rw [binds] at bound
    rcases source_of_bind bound with old | new
    · exact kept _ (h.bound b old)
    · exact new ▸ own

/-- A production that binds a rule to another field blames its constraint and a source of the
rule. -/
theorem Answered.concerns_of_add (h : m.Answered)
    (failed : m.add rule source alternatives field = .error e) :
    e.Concerns fun id => id ∈ m.sources ∨ id = source := by
  rcases Outcome.bind_eq_error_iff.1 failed with clash | ⟨_, -, never⟩
  · unfold bind at clash
    split at clash
    · cases clash
    · cases clash
    · next b asked binds =>
      split at clash
      · cases clash
      · cases clash
        have blamed : ∀ id, id ∈ (if source < b.source then [source, b.source]
            else [b.source, source]) ↔ id = source ∨ id = b.source := by
          intro id
          split <;> simp [or_comm]
        refine CompileError.concerns_inconsistent ⟨source, (blamed _).2 (.inl rfl)⟩
          fun id listed => ?_
        rcases (blamed id).1 listed with rfl | rfl
        · exact .inr rfl
        · exact .inl (h.bound b binds)
  · cases never

end MergedRule

namespace MergedRules

variable {m merged : MergedRules} {c : Constraint} {l : List Constraint} {e : CompileError}

/-- Every rule has a source, and its sources answer for all of it. -/
def Answered (m : MergedRules) : Prop :=
  ∀ name r, (name, r) ∈ m.rules → r.Answered ∧ ∃ id, id ∈ r.sources

theorem answered_getD (h : m.Answered) (rule : String) :
    ((Keyed.get? rule m.rules).getD {}).Answered := by
  cases found : Keyed.get? rule m.rules with
  | none => exact MergedRule.answered_empty
  | some r => exact (h rule r (Keyed.mem_of_get? found)).1

theorem Answered.add (h : m.Answered) (added : m.add c = .ok merged) : merged.Answered := by
  unfold MergedRules.add at added
  split at added
  · next rule alternatives field _ =>
    split at added
    · cases added
    · obtain ⟨new, step, same⟩ := Outcome.bind_eq_ok_iff.1 added
      cases same
      obtain ⟨answered, own⟩ := (answered_getD h rule).add step
      intro name r member
      rcases Keyed.mem_of_mem_insert member with here | old
      · cases here
        exact ⟨answered, c.id, own⟩
      · exact h name r old
  · cases added

theorem answered_of_ofConstraints (h : ofConstraints l = .ok m) : m.Answered :=
  Outcome.foldlM_keeps Answered (fun _ _ _ answered added => answered.add added)
    (fun _ _ member => absurd member List.not_mem_nil) h

/-- A production that cannot be merged blames its constraint, and sources of the rules. -/
theorem Answered.concerns_of_add (h : m.Answered) (failed : m.add c = .error e) :
    e.Concerns fun id => m.Names id ∨ id = c.id := by
  unfold MergedRules.add at failed
  split at failed
  · next rule alternatives field _ =>
    split at failed
    · cases failed
      exact CompileError.concerns_invalidConstraint (.inr rfl)
    · rcases Outcome.bind_eq_error_iff.1 failed with clash | ⟨_, -, never⟩
      · exact ((answered_getD h rule).concerns_of_add clash).mono fun id named =>
          named.imp_left names_of_mem_getD
      · cases never
  · cases failed
    exact CompileError.concerns_invalidConstraint (.inr rfl)

/-- What is wrong with the rules together is blamed on sources of them. -/
theorem Answered.concerns_of_fault? (h : m.Answered) (fault : m.fault? = some e) :
    e.Concerns m.Names := by
  have listed : ∀ r ∈ m.rules, ∀ a ∈ r.2.alternatives, m.Names a.source :=
    fun r member a listed => ⟨r, member, (h r.1 r.2 member).1.listed a listed⟩
  simp only [fault?, Option.orElse_eq_orElse, Option.orElse_eq_or, Option.or_eq_some_iff] at fault
  rcases fault with undefined | ⟨-, unproductive | ⟨-, ambiguous⟩⟩
  · obtain ⟨r, member, inRule⟩ := List.exists_of_findSome?_eq_some undefined
    obtain ⟨a, alternative, inAlternative⟩ := List.exists_of_findSome?_eq_some inRule
    obtain ⟨other, -, missing⟩ := List.exists_of_findSome?_eq_some inAlternative
    split at missing <;> cases missing
    exact CompileError.concerns_invalidConstraint (listed r member a alternative)
  · obtain ⟨⟨name, rule⟩, found, rfl⟩ := Option.map_eq_some_iff.1 unproductive
    obtain ⟨r, member, rfl⟩ := mem_rules_toGrammar.1 (List.mem_of_find?_eq_some found)
    obtain ⟨id, source⟩ := (h name r member).2
    obtain ⟨first, rest, sources⟩ := List.exists_cons_of_ne_nil (List.ne_nil_of_mem source)
    have head : r.sources.toList.headD name ∈ r.sources := by
      rw [NameSet.mem_def, sources]
      exact List.mem_cons_self
    exact CompileError.concerns_invalidConstraint ⟨_, member, head⟩
  · obtain ⟨r, member, hit⟩ := List.exists_of_findSome?_eq_some ambiguous
    obtain ⟨a, found, rfl⟩ := Option.map_eq_some_iff.1 hit
    obtain ⟨some_there, each⟩ := Choice.alternatives_of_ambiguity? found
    refine Ambiguity.concerns_toError some_there fun x inQuestion => ?_
    have alternative := each x inQuestion
    rw [List.map_map, List.mem_map] at alternative
    obtain ⟨_, alternative, rfl⟩ := alternative
    exact listed r member _ alternative

end MergedRules

namespace Grammar

variable {l : List Constraint} {g : Grammar} {e : CompileError}

/-- When constraints have no common grammar, some of them are blamed and no others. -/
theorem concerns_of_ofConstraints (h : ofConstraints l = .error e) :
    e.Concerns fun id => ∃ c ∈ l, c.id = id := by
  unfold ofConstraints at h
  split at h
  · cases h
  · have targeted : ∀ c ∈ l.filter fun c => c.enforcement = .grammar, c ∈ l :=
      fun c member => List.mem_of_mem_filter member
    rw [Outcome.map_eq_error_iff] at h
    rcases Outcome.bind_eq_error_iff.1 h with failed | ⟨merged, done, checked⟩
    · obtain ⟨before, c, after, m, split, done, failed⟩ :=
        Outcome.exists_of_foldlM_eq_error failed
      rw [split] at targeted
      have answered := MergedRules.answered_of_ofConstraints done
      refine (answered.concerns_of_add failed).mono fun id named => ?_
      rcases named with earlier | rfl
      · obtain ⟨d, member, same⟩ := (MergedRules.names_of_ofConstraints done).1 earlier
        exact ⟨d, targeted d (List.mem_append_left _ member), same⟩
      · exact ⟨c, targeted c (List.mem_append_right _ List.mem_cons_self), rfl⟩
    · split at checked
      · next fault =>
        cases checked
        have answered := MergedRules.answered_of_ofConstraints done
        refine (answered.concerns_of_fault? fault).mono fun id named => ?_
        obtain ⟨d, member, same⟩ := (MergedRules.names_of_ofConstraints done).1 named
        exact ⟨d, targeted d member, same⟩
      · cases checked

/-- Every rule of a compiled grammar has a source. -/
theorem exists_source_of_ofConstraints (h : ofConstraints l = .ok (some g)) {name : String}
    {r : GrammarRule} (member : (name, r) ∈ g.rules) : ∃ id, id ∈ r.sources := by
  unfold ofConstraints at h
  split at h
  · cases h
  · obtain ⟨compiled, done, same⟩ := Outcome.map_eq_ok_iff.1 h
    cases same
    obtain ⟨merged, found, checked⟩ := Outcome.bind_eq_ok_iff.1 done
    split at checked
    · cases checked
    · cases checked
      obtain ⟨rule, filed, rfl⟩ := MergedRules.mem_rules_toGrammar.1 member
      exact (MergedRules.answered_of_ofConstraints found name rule filed).2

end Grammar

end GuidedDecoding
