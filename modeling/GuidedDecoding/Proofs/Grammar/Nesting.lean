import GuidedDecoding.Proofs.Grammar.Unambiguous
import Mathlib.Order.Interval.Finset.Nat
import Mathlib.Order.Interval.Set.Infinite

/-!
# Rules inside rules

A rule that another one uses has each of its trees inside a larger tree of the other, always between
the same two texts. If a rule comes back to itself in this way and different trees spell different
texts, then the two texts are not both empty, and going around gives longer and longer texts: the
rule derives infinitely many.
-/

namespace GuidedDecoding

namespace Forest

variable {g : Grammar}

variable {symbols : List Symbol}

/-- A tree of a rule above a forest of one of its alternatives. -/
theorem exists_parseTree {name : String} {r : GrammarRule} (found : g.rule? name = some r)
    (listed : symbols ∈ r.alternatives) (f : Forest g symbols) :
    ∃ t : ParseTree g name, t.text = f.text ∧ f.size < t.size := by
  obtain ⟨i, bound, rfl⟩ := List.getElem_of_mem listed
  refine ⟨.rule found ⟨i, bound⟩ f .nil, by simp, ?_⟩
  simp [size]

end Forest

namespace Grammar

variable {g : Grammar}

/-- All texts that symbols derive. -/
def language (g : Grammar) (symbols : List Symbol) : Set String := {text | g.Derives symbols text}

@[simp] theorem mem_language {symbols : List Symbol} {text : String} :
    text ∈ g.language symbols ↔ g.Derives symbols text := Iff.rfl

/-- Every tree of the inner rule is inside a larger tree of the outer rule, between the same two
texts. -/
def Encloses (g : Grammar) (outer inner : String) : Prop :=
  ∃ before after, ∀ t : ParseTree g inner, ∃ whole : ParseTree g outer,
    whole.text = before ++ t.text ++ after ∧ t.size < whole.size

theorem Encloses.trans {outer middle inner : String} (first : g.Encloses outer middle)
    (second : g.Encloses middle inner) : g.Encloses outer inner := by
  obtain ⟨before, after, grow⟩ := first
  obtain ⟨before', after', grow'⟩ := second
  refine ⟨before ++ before', after' ++ after, fun t => ?_⟩
  obtain ⟨part, spelled, larger⟩ := grow' t
  obtain ⟨whole, spelled', larger'⟩ := grow part
  refine ⟨whole, ?_, larger.trans larger'⟩
  rw [spelled', spelled]
  simp only [String.append_assoc]

/-- Symbols derive some text if each rule among them does. -/
theorem exists_derives {symbols : List Symbol}
    (each : ∀ name, .rule name ∈ symbols → ∃ text, g.Derives [.rule name] text) :
    ∃ text, g.Derives symbols text := by
  induction symbols with
  | nil => exact ⟨"", derives_nil.2 rfl⟩
  | cons s rest ih =>
    obtain ⟨others, derived⟩ := ih fun name inside => each name (List.mem_cons_of_mem _ inside)
    have first : ∃ piece, g.Derives [s] piece := by
      cases s with
      | terminal text => exact ⟨text, derives_terminal.2 rfl⟩
      | rule name => exact each name List.mem_cons_self
    obtain ⟨piece, derivedFirst⟩ := first
    exact ⟨_, derives_cons.2 ⟨piece, others, derivedFirst, derived, rfl⟩⟩

namespace Accepted

/-- Every part of an alternative derives some text. -/
theorem exists_derives (accepted : g.Accepted) {name : String} {r : GrammarRule}
    (found : g.rule? name = some r) {symbols part : List Symbol}
    (listed : symbols ∈ r.alternatives) (within : part ⊆ symbols) :
    ∃ text, g.Derives part text := by
  refine Grammar.exists_derives fun other refers => accepted.productive other ?_
  exact accepted.defined name r (Keyed.mem_of_get? found) symbols listed other (within refers)

/-- A rule encloses the rules that its alternatives refer to. -/
theorem encloses (accepted : g.Accepted) {outer inner : String} {r : GrammarRule}
    (found : g.rule? outer = some r) {symbols : List Symbol} (listed : symbols ∈ r.alternatives)
    (inside : .rule inner ∈ symbols) : g.Encloses outer inner := by
  obtain ⟨front, back, rfl⟩ := List.append_of_mem inside
  have later : back ⊆ front ++ .rule inner :: back := by
    intro s h
    simp [h]
  obtain ⟨before, f, spelled⟩ :=
    accepted.exists_derives found listed (List.subset_append_left front _)
  obtain ⟨after, b, spelled'⟩ := accepted.exists_derives found listed later
  refine ⟨before, after, fun t => ?_⟩
  obtain ⟨whole, text, larger⟩ := (f.append (t.append b)).exists_parseTree found listed
  refine ⟨whole, ?_, ?_⟩
  · rw [text, Forest.text_append, Forest.text_append, spelled, spelled', String.append_assoc]
  · simp only [Forest.size_append] at larger
    omega

/-- A rule that encloses itself derives infinitely many texts. -/
theorem infinite_language (accepted : g.Accepted) {name : String}
    (declared : name ∈ Keyed.names g.rules) (again : g.Encloses name name) :
    (g.language [.rule name]).Infinite := by
  obtain ⟨before, after, grow⟩ := again
  obtain ⟨start, t, -⟩ := accepted.productive name declared
  have longer : ∀ t : ParseTree g name,
      ∃ t' : ParseTree g name, t.text.length < t'.text.length := by
    intro t
    obtain ⟨t', spelled, larger⟩ := grow t
    refine ⟨t', ?_⟩
    by_contra short
    have same : t.text = t'.text := by
      have lengths := congrArg String.length spelled
      simp only [String.length_append] at lengths
      have noBefore : before = "" := String.length_eq_zero_iff.1 (by omega)
      have noAfter : after = "" := String.length_eq_zero_iff.1 (by omega)
      rw [spelled, noBefore, noAfter]
      simp
    have equal := accepted.predictive.parseTree_eq accepted.spelledOut same
    rw [equal] at larger
    exact absurd larger (Nat.lt_irrefl _)
  have unbounded : ∀ n, ∃ t : ParseTree g name, n ≤ t.text.length := by
    intro n
    induction n with
    | zero => exact ⟨t, Nat.zero_le _⟩
    | succ n ih =>
      obtain ⟨t, long⟩ := ih
      obtain ⟨t', longer⟩ := longer t
      exact ⟨t', by omega⟩
  have lengths : (String.length '' g.language [.rule name]).Infinite := by
    rw [Set.infinite_iff_exists_gt]
    intro n
    obtain ⟨t, long⟩ := unbounded (n + 1)
    exact ⟨_, ⟨t.text, ⟨t, rfl⟩, rfl⟩, long⟩
  exact lengths.of_image _

end Accepted

end Grammar

end GuidedDecoding
