import GuidedDecoding.Proofs.Compilation.Stages
import GuidedDecoding.Proofs.Constraint.Records
import GuidedDecoding.Proofs.Graph.Demoted
import Mathlib.Data.List.Find

/-!
# Advice and what is compiled

A remark on a set may depend on its members and conflict with them, as long as none of them refers
to the remark. Put into the set, it changes neither the error that compiling stops with, nor what is
enforced, nor what is noted; it is one more entry among those of the other constraints that nothing
enforces (`ConstraintSet.compile_insert_remark`).

A constraint that was demoted is worth as much as advice: declared to be advice, it leaves nothing
to be noted and everything else as it is (`ConstraintSet.compile_withAdvice`).
-/

namespace GuidedDecoding

/-- A constraint makes sense as a remark about members of a set, none of which refers to it. -/
structure Constraint.RemarkOn (a : Constraint) (s : ConstraintSet) : Prop where
  advisory : a.enforcement = .advisory
  valid : a.fault? = none
  new : ¬ a.id ∈ s.ids
  unreferenced : ∀ c ∈ s.members, ¬ a.id ∈ c.references
  refers : ∀ id ∈ a.references, id ∈ s.ids

namespace ConstraintSet

variable {s : ConstraintSet} {a : Constraint}

/-! ### A remark is put into a set -/

/-- A new constraint is put between two members, or at an end. -/
theorem exists_split_place : ∀ {l : List Constraint}, ¬ a.id ∈ l.map Constraint.id →
    ∃ before after, l = before ++ after ∧ place a l = before ++ a :: after
  | [], _ => ⟨[], [], rfl, rfl⟩
  | d :: rest, new => by
    rw [List.map_cons, List.mem_cons, not_or] at new
    unfold place
    split
    · exact ⟨[], d :: rest, rfl, rfl⟩
    · obtain ⟨before, after, split, placed⟩ := exists_split_place new.2
      rw [if_neg new.1, placed]
      exact ⟨d :: before, after, by rw [split, List.cons_append], rfl⟩

theorem sorted_adjoin (s : ConstraintSet) (a : Constraint) :
    ((place a s.members).map Constraint.id).Pairwise (· < ·) := sorted_place s.sorted

/-- The set with one more constraint. -/
def adjoin (s : ConstraintSet) (a : Constraint) : ConstraintSet :=
  ⟨place a s.members, sorted_adjoin s a⟩

theorem insert_of_new (new : ¬ a.id ∈ s.ids) : s.insert a = .ok (s.adjoin a, true) := by
  rw [insert, get?_eq_none_iff.2 new]
  rfl

theorem exists_split_adjoin (new : ¬ a.id ∈ s.ids) :
    ∃ before after, s.members = before ++ after ∧ (s.adjoin a).members = before ++ a :: after :=
  exists_split_place new

theorem contains_adjoin {id : String} :
    (s.adjoin a).contains id = (decide (id = a.id) || s.contains id) := by
  rw [Bool.eq_iff_iff, Bool.or_eq_true, decide_eq_true_eq, contains_iff, contains_iff]
  exact mem_ids_place

/-- Looking through the members for something that a new one does not have. -/
theorem findSome?_adjoin {α : Type} {f : Constraint → Option α} (new : ¬ a.id ∈ s.ids)
    (nothing : f a = none) : (s.adjoin a).members.findSome? f = s.members.findSome? f := by
  obtain ⟨before, after, split, placed⟩ := exists_split_adjoin new
  rw [placed, split, List.findSome?_append, List.findSome?_append,
    List.findSome?_cons_of_isNone (by rw [nothing, Option.isNone_none])]

theorem fault?_adjoin (h : a.RemarkOn s) : (s.adjoin a).fault? = s.fault? := by
  have invalid : (s.adjoin a).invalid? = s.invalid? := by
    refine findSome?_adjoin h.new ?_
    rw [h.valid, Option.map_none]
  have known : ∀ c ∈ s.members,
      (c.references.find? fun id => !(s.adjoin a).contains id) =
        c.references.find? fun id => !s.contains id := by
    intro c member
    refine List.find?_congr fun id refers => ?_
    have other : id ≠ a.id := fun same => h.unreferenced c member (same ▸ refers)
    rw [contains_adjoin, decide_eq_false other, Bool.false_or]
  have dangling : (s.adjoin a).dangling? = s.dangling? := by
    rw [dangling?, findSome?_adjoin h.new, dangling?]
    · rw [← List.head?_filterMap, ← List.head?_filterMap]
      refine congrArg List.head? (List.filterMap_congr fun c member => ?_)
      rw [known c member]
    · rw [Option.map_eq_none_iff, List.find?_eq_none]
      intro id refers
      rw [contains_adjoin, contains_iff.2 (h.refers id refers), Bool.or_true]
      simp
  rw [fault?, fault?, invalid, dangling]

/-- To the graph of a set a remark is one more advisory member that nothing depends on. -/
theorem advises_adjoin (h : a.RemarkOn s) (sound : s.fault? = none)
    (sound' : (s.adjoin a).fault? = none) :
    ConstraintGraph.Advises a ⟨s, sound⟩ ⟨s.adjoin a, sound'⟩ where
  nodes := by
    obtain ⟨before, after, split, placed⟩ := exists_split_adjoin h.new
    have others : ∀ c ∈ s.members, decide (c.id ≠ a.id) = true := by
      intro c member
      rw [decide_eq_true_eq]
      exact fun same => h.new (List.mem_map.2 ⟨c, member, same⟩)
    rw [ConstraintGraph.nodes, ConstraintGraph.nodes, placed, List.filter_append,
      List.filter_cons_of_neg (by simp), ← List.filter_append, ← split,
      List.filter_eq_self.2 others]
  mem := (mem_place h.new).2 (.inl rfl)
  advisory := by simp [Constraint.isEnforced, h.advisory]
  unneeded := by
    intro c member needs
    have refers : a.id ∈ c.references := List.mem_append_left _ needs
    rcases (mem_place h.new).1 member with rfl | known
    · exact h.new (h.refers _ refers)
    · exact h.unreferenced c known refers

/-- A set with a remark on it and the set without it both fail with one error, or compile to the
same fragments with the same notes. The remark is then one more entry among the others. -/
theorem compile_insert_remark [RegexLibrary] (h : a.RemarkOn s) (config : CompilerConfig) :
    ∃ s', s.insert a = .ok (s', true) ∧
      ((∃ e, s.compile config = .error e ∧ s'.compile config = .error e) ∨
        ∃ b b', s.compile config = .ok b ∧ s'.compile config = .ok b' ∧
          b'.toFragments = b.toFragments ∧ b'.notes = b.notes ∧
          ∃ before after, b.advisory = before ++ after ∧
            b'.advisory = before ++ ⟨a.id, a.priority, .declared⟩ :: after) := by
  refine ⟨s.adjoin a, insert_of_new h.new, ?_⟩
  cases fault : s.fault? with
  | some e =>
    have fault' := (fault?_adjoin h).trans fault
    exact .inl ⟨e, compile_of_fault fault, compile_of_fault fault'⟩
  | none =>
    have sound' := (fault?_adjoin h).trans fault
    have advises := advises_adjoin h fault sound'
    rw [compile_of_sound fault, compile_of_sound sound', Resolution.ofGraph_eq_without advises]
    cases resolved : Resolution.ofGraph ⟨s.adjoin a, sound'⟩ with
    | error e => exact .inl ⟨e, rfl, rfl⟩
    | ok r =>
      have enforced : (r.without a.id).ordered = r.ordered := rfl
      rcases Resolution.compile_cases config s.fingerprint (s.adjoin a).fingerprint enforced with
        ⟨e, failed, failed'⟩ | ⟨fragments, compiled, compiled'⟩
      · exact .inl ⟨e, failed, failed'⟩
      · obtain ⟨before, after, entries, others⟩ :=
          Resolution.advisory_eq_of_declared resolved advises.mem advises.advisory
        refine .inr ⟨_, _, compiled, compiled', ?_, ?_, before, after, others, entries⟩
        · simp
        · simp [Resolution.without]

/-- A remark that needs a constraint which is not enforced and conflicts with one which is. -/
def afterthought : Constraint :=
  ((Constraint.ofAdvice "remark" .critical "e").dependingOn "given").conflictingWith "wanted"

theorem remarkOn_oneOfEach : afterthought.RemarkOn oneOfEach.set where
  advisory := rfl
  valid := rfl
  new := by decide
  unreferenced := by decide
  refers := by decide

theorem compile_insert_afterthought :
    ∃ s' b', oneOfEach.set.insert afterthought = .ok (s', true) ∧ s'.compile {} = .ok b' ∧
      ⟨"remark", .critical, .declared⟩ ∈ b'.advisory := by
  obtain ⟨b, compiled, -⟩ := compile_oneOfEach
  obtain ⟨s', inserted, ⟨e, failed, -⟩ | ⟨_, b', -, compiled', -, -, before, after, -, entry⟩⟩ :=
    compile_insert_remark remarkOn_oneOfEach {}
  · cases compiled.symm.trans failed
  · exact ⟨s', b', inserted, compiled', entry ▸ List.mem_append_right _ List.mem_cons_self⟩

/-! ### What was demoted becomes advice -/

/-- A set that compiles does so without notes once what was demoted is advice. The fragments are
the same, and the same constraints are carried along in the same order. -/
theorem compile_withAdvice [RegexLibrary] {config : CompilerConfig} {b : Artifact}
    (h : s.compile config = .ok b) :
    ∃ b', (s.withAdvice (demotedIn b.advisory)).compile config = .ok b' ∧
      b'.toFragments = b.toFragments ∧ b'.advisory = b.advisory.map AdvisoryEntry.asDeclared ∧
      b'.notes = [] := by
  obtain ⟨g, r, rfl, resolved, compiled⟩ := compile_eq_ok_iff.1 h
  have again : Resolution.ofGraph ⟨g.set.withAdvice (demotedIn r.advisory),
      fault?_withAdvice g.sound⟩ = .ok r.asDeclared :=
    Resolution.ofGraph_withAdvice resolved rfl
  have enforced : r.ordered = r.asDeclared.ordered := rfl
  rcases Resolution.compile_cases config g.set.fingerprint
      (g.set.withAdvice (demotedIn r.advisory)).fingerprint enforced with
    ⟨e, failed, -⟩ | ⟨fragments, compiled', recompiled⟩
  · cases compiled.symm.trans failed
  · obtain rfl := Except.ok.inj (compiled.symm.trans compiled')
    rw [Resolution.advisory_artifact, Resolution.toFragments_artifact]
    refine ⟨_, compile_eq_ok_iff.2 ⟨_, _, rfl, again, recompiled⟩, ?_, ?_, ?_⟩
    · rw [Resolution.toFragments_artifact]
    · rw [Resolution.advisory_artifact, Resolution.asDeclared]
    · rw [Resolution.notes_artifact, Resolution.asDeclared]

theorem compile_withAdvice_oneOfEach :
    ∃ b b', oneOfEach.set.compile {} = .ok b ∧ demotedIn b.advisory "given" = true ∧
      (oneOfEach.set.withAdvice (demotedIn b.advisory)).compile {} = .ok b' ∧
      b'.advisory = [⟨"advice", .low, .declared⟩, ⟨"given", .low, .declared⟩] := by
  obtain ⟨b, compiled, entries⟩ := compile_oneOfEach
  obtain ⟨b', again, -, declared, -⟩ := compile_withAdvice compiled
  rw [entries] at declared
  exact ⟨b, b', compiled, by rw [entries]; rfl, again, declared⟩

end ConstraintSet

end GuidedDecoding
