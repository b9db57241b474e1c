import GuidedDecoding.Regex.Library

/-!
# Libraries that keep to what is documented

What is proved about patterns rests on what the documentation of regular expressions says, and not
on how a library works: what anchors, groups and concatenations describe, that a program matches a
value in which the expression describes something, and that a pattern by itself is read in the same
way within a group (`RegexLibrary.Semantics.Lawful`).

A pattern between anchors then describes a value from the first to the last character, or nothing.
-/

namespace GuidedDecoding

namespace RegexLibrary

/-- What the expressions of a library mean, and the expressions that texts are put together of. -/
structure Semantics [RegexLibrary] where
  /-- The expression describes the stretch of a value from one place to another. -/
  Describes : Expr → String → Nat → Nat → Prop
  /-- `^` -/
  startText : Expr
  /-- `$` -/
  endText : Expr
  /-- `(?:…)` -/
  group : Expr → Expr
  /-- One expression after another. -/
  concat : List Expr → Expr

namespace Semantics

variable [RegexLibrary] (S : Semantics)

/-- The expression describes the value from the first to the last character. -/
def Spans (e : Expr) (value : String) : Prop := S.Describes e value 0 value.length

/-- What is documented of a library, piece by piece. Nothing here says what a wrapped pattern
matches. -/
structure Lawful : Prop where
  startText_iff : ∀ value i j, S.Describes S.startText value i j ↔ i = 0 ∧ j = 0
  endText_iff : ∀ value i j,
    S.Describes S.endText value i j ↔ i = value.length ∧ j = value.length
  group_iff : ∀ e value i j, S.Describes (S.group e) value i j ↔ S.Describes e value i j
  nothing_iff : ∀ value i j, S.Describes (S.concat []) value i j ↔ i = j ∧ j ≤ value.length
  concat_iff : ∀ e rest value i j, S.Describes (S.concat (e :: rest)) value i j ↔
    ∃ k, S.Describes e value i k ∧ S.Describes (S.concat rest) value k j
  /-- An anchor, a group and an anchor are read one after another, and flags and alternatives of a
  text that can be read by itself end where its group ends. The whole may still be unreadable, since
  it nests more deeply and the text may take the parenthesis into a comment. -/
  read_wrapped : ∀ text e whole, read text = .ok e → read ("^(?:" ++ text ++ ")$") = .ok whole →
    whole = S.concat [S.startText, S.group e, S.endText]
  isMatch_iff : ∀ text e limit p, read text = .ok e → build? limit e = some p → ∀ value,
    isMatch p value = true ↔ ∃ i j, S.Describes e value i j
  build?_larger : ∀ e limit larger, limit ≤ larger → (build? limit e).isSome →
    (build? larger e).isSome

end Semantics

section

variable [RegexLibrary] {S : Semantics} {limit larger : Nat} {text value : String} {e : Expr}
  {p : Program}

theorem compileWithin_eq_ok_iff :
    compileWithin limit text = .ok p ↔ ∃ e, read text = .ok e ∧ build? limit e = some p := by
  unfold compileWithin
  cases read text with
  | error reason => simp
  | ok e =>
    cases built : build? limit e with
    | none => simp [built]
    | some q => simp [built]

namespace Semantics.Lawful

/-- With more room, the same texts can be compiled, and perhaps others. -/
theorem compileWithin_larger (laws : S.Lawful) (le : limit ≤ larger)
    (compiled : compileWithin limit text = .ok p) : ∃ q, compileWithin larger text = .ok q := by
  obtain ⟨e, readable, built⟩ := compileWithin_eq_ok_iff.1 compiled
  have still := laws.build?_larger e limit larger le (Option.isSome_of_eq_some built)
  obtain ⟨q, rebuilt⟩ := Option.isSome_iff_exists.1 still
  exact ⟨q, compileWithin_eq_ok_iff.2 ⟨e, readable, rebuilt⟩⟩

/-- Between the anchors an expression describes the whole value or nothing. -/
theorem between_anchors_iff (laws : S.Lawful) {i j : Nat} :
    S.Describes (S.concat [S.startText, S.group e, S.endText]) value i j ↔
      i = 0 ∧ j = value.length ∧ S.Spans e value := by
  simp only [laws.concat_iff, laws.startText_iff, laws.group_iff, laws.endText_iff,
    laws.nothing_iff]
  constructor
  · rintro ⟨_, ⟨rfl, rfl⟩, _, spans, _, ⟨rfl, rfl⟩, rfl, -⟩
    exact ⟨rfl, rfl, spans⟩
  · rintro ⟨rfl, rfl, spans⟩
    exact ⟨0, ⟨rfl, rfl⟩, _, spans, _, ⟨rfl, rfl⟩, rfl, Nat.le_refl _⟩

/-- If a text can be read by itself, what its wrapped form is compiled to matches the values that
the text describes from the first to the last character. -/
theorem isMatch_anchored_iff (laws : S.Lawful) (readable : read text = .ok e)
    (compiled : compileWithin limit ("^(?:" ++ text ++ ")$") = .ok p) :
    isMatch p value = true ↔ S.Spans e value := by
  obtain ⟨whole, wrapped, built⟩ := compileWithin_eq_ok_iff.1 compiled
  rw [laws.isMatch_iff _ _ _ _ wrapped built, laws.read_wrapped _ _ _ readable wrapped]
  simp only [laws.between_anchors_iff]
  constructor
  · rintro ⟨_, _, -, -, spans⟩
    exact spans
  · exact fun spans => ⟨0, value.length, rfl, rfl, spans⟩

end Semantics.Lawful

end

end RegexLibrary

end GuidedDecoding
