import GuidedDecoding.Proofs.Grammar.ParseTree
import GuidedDecoding.Proofs.Keyed
import Mathlib.Logic.Relation

/-!
# Sentential forms

A sequence of symbols is expanded by putting one alternative of a rule in the place of the rule,
and the sequences that come about in this way are its sentential forms. A form need not lead to a
text: what a rule can start with or be followed by is said of forms, whether or not the other rules
in them derive anything.

Every forest of a form is what is left of a forest of the sequence that it was expanded from, which
has one more rule for each expansion (`Grammar.Expands.exists_forest`).
-/

namespace GuidedDecoding

namespace Forest

variable {g : Grammar} {after : List Symbol}

/-- A forest of two sequences, one after the other, is two forests side by side. -/
theorem exists_append_eq {symbols : List Symbol} (f : Forest g (symbols ++ after)) :
    ∃ (front : Forest g symbols) (back : Forest g after), f = front.append back := by
  induction symbols with
  | nil => exact ⟨.nil, f, rfl⟩
  | cons s rest ih =>
    cases f with
    | terminal text others =>
      obtain ⟨front, back, rfl⟩ := ih others
      exact ⟨.terminal text front, back, rfl⟩
    | rule found choice children others =>
      obtain ⟨front, back, rfl⟩ := ih others
      exact ⟨.rule found choice children front, back, rfl⟩

end Forest

namespace Grammar

/-- One rule of a sequence gives way to one of its alternatives. -/
inductive Expands (g : Grammar) : List Symbol → List Symbol → Prop where
  | step (before after : List Symbol) {name : String} {r : GrammarRule} {symbols : List Symbol}
      (found : g.rule? name = some r) (listed : symbols ∈ r.alternatives) :
      Expands g (before ++ .rule name :: after) (before ++ (symbols ++ after))

/-- A sequence has a sentential form. -/
def Reaches (g : Grammar) : List Symbol → List Symbol → Prop := Relation.ReflTransGen g.Expands

variable {g : Grammar} {form other : List Symbol}

theorem Expands.of_alternative {name : String} {r : GrammarRule} {symbols : List Symbol}
    (found : g.rule? name = some r) (listed : symbols ∈ r.alternatives) :
    g.Expands [.rule name] symbols := by
  simpa using Expands.step [] [] found listed

theorem Expands.within (h : g.Expands form other) (before after : List Symbol) :
    g.Expands (before ++ (form ++ after)) (before ++ (other ++ after)) := by
  obtain ⟨front, back, found, listed⟩ := h
  simpa only [List.append_assoc, List.cons_append]
    using Expands.step (before ++ front) (back ++ after) found listed

namespace Reaches

theorem refl (form : List Symbol) : g.Reaches form form := Relation.ReflTransGen.refl

theorem trans {last : List Symbol} (h : g.Reaches form other) (h' : g.Reaches other last) :
    g.Reaches form last := Relation.ReflTransGen.trans h h'

theorem of_alternative {name : String} {r : GrammarRule} {symbols : List Symbol}
    (found : g.rule? name = some r) (listed : symbols ∈ r.alternatives) :
    g.Reaches [.rule name] symbols := .single (.of_alternative found listed)

/-- Expansion does not depend on what stands around. -/
theorem within (h : g.Reaches form other) (before after : List Symbol) :
    g.Reaches (before ++ (form ++ after)) (before ++ (other ++ after)) := by
  induction h with
  | refl => exact refl _
  | tail _ step ih => exact Relation.ReflTransGen.tail ih (step.within before after)

theorem append_right (h : g.Reaches form other) (after : List Symbol) :
    g.Reaches (form ++ after) (other ++ after) := h.within [] after

theorem append_left (h : g.Reaches form other) (before : List Symbol) :
    g.Reaches (before ++ form) (before ++ other) := by
  simpa using h.within before []

end Reaches

/-! ### Forests of forms -/

/-- A forest of the expanded sequence lies below one of the sequence, which has a rule more and
spells the same. -/
theorem Expands.exists_forest (h : g.Expands form other) (f : Forest g other) :
    ∃ whole : Forest g form, whole.text = f.text ∧ f.size < whole.size := by
  obtain ⟨before, after, found, listed⟩ := h
  obtain ⟨front, rest, rfl⟩ := f.exists_append_eq
  obtain ⟨children, back, rfl⟩ := rest.exists_append_eq
  obtain ⟨i, bound, rfl⟩ := List.getElem_of_mem listed
  refine ⟨front.append (.rule found ⟨i, bound⟩ children back), by simp, ?_⟩
  simp only [Forest.size_append, Forest.size]
  omega

theorem exists_forest_of_transGen (h : Relation.TransGen g.Expands form other)
    (f : Forest g other) : ∃ whole : Forest g form, whole.text = f.text ∧ f.size < whole.size := by
  induction h with
  | single step => exact step.exists_forest f
  | tail _ step ih =>
    obtain ⟨middle, text, larger⟩ := step.exists_forest f
    obtain ⟨whole, text', larger'⟩ := ih middle
    exact ⟨whole, text'.trans text, Nat.lt_trans larger larger'⟩

/-- A sequence derives what its forms derive. -/
theorem Reaches.derives (h : g.Reaches form other) {text : String}
    (derived : g.Derives other text) : g.Derives form text := by
  induction h using Relation.ReflTransGen.head_induction_on with
  | refl => exact derived
  | head step _ ih =>
    obtain ⟨f, spelled⟩ := ih
    obtain ⟨whole, same, -⟩ := step.exists_forest f
    exact ⟨whole, same.trans spelled⟩

/-- What holds of the symbols of a sequence and of those of all alternatives holds of all symbols in
its forms. -/
theorem Reaches.forall_symbols {p : Symbol → Prop}
    (each : ∀ name r, (name, r) ∈ g.rules → ∀ symbols ∈ r.alternatives, ∀ s ∈ symbols, p s)
    (h : g.Reaches form other) (start : ∀ s ∈ form, p s) : ∀ s ∈ other, p s := by
  induction h with
  | refl => exact start
  | tail _ step ih =>
    obtain ⟨before, after, found, listed⟩ := step
    intro s inside
    rcases List.mem_append.1 inside with front | inside
    · exact ih s (List.mem_append_left _ front)
    · rcases List.mem_append.1 inside with new | back
      · exact each _ _ (Keyed.mem_of_get? found) _ listed s new
      · exact ih s (List.mem_append_right _ (List.mem_cons_of_mem _ back))

/-- Only rules that exist give way to something. -/
theorem Expands.exists_declared (h : g.Expands form other) :
    ∃ name ∈ Keyed.names g.rules, .rule name ∈ form := by
  obtain ⟨before, after, found, -⟩ := h
  exact ⟨_, Keyed.mem_names_of_get? found, by simp⟩

end Grammar

end GuidedDecoding
