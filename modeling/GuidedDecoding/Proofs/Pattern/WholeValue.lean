import GuidedDecoding.Pattern.Compile
import GuidedDecoding.Proofs.Outcome
import GuidedDecoding.Proofs.Regex.Lawful
import GuidedDecoding.Proofs.TokenMask.Verdict

/-!
# Patterns match whole values

A pattern is matched in a wrapped form, so that it has to span the value. It does if the pattern can
be read by itself: then its wrapped form means the pattern between an anchor at the start and an
anchor at the end. A pattern that closes the wrapping and opens another group cannot be read by
itself, but can be compiled all the same, and then its parts are anchored at one end only.

All this holds with any library of regular expressions that keeps to what is documented
(`RegexLibrary.Semantics.Lawful`), as the library that is run does (`Regex.semantics_lawful`).
-/

namespace GuidedDecoding

section

variable [RegexLibrary]

theorem NamedPattern.of_ofConstraint {sizeLimit : Nat} {c : Constraint} {p : NamedPattern}
    (h : ofConstraint sizeLimit c = .ok p) :
    p.pattern = anchored p.declared ∧
      ∃ form, RegexLibrary.compileWithin sizeLimit p.pattern = .ok form := by
  unfold ofConstraint at h
  split at h
  · split at h
    · cases h
    · split at h
      · cases h
      · split at h
        · cases h
        · next form compiled =>
          cases h
          exact ⟨rfl, form, compiled⟩
  · cases h

namespace PatternSet

theorem of_mem {sizeLimit : Nat} {constraints : List Constraint} {s : PatternSet}
    (h : ofConstraints sizeLimit constraints = .ok (some s)) {p : NamedPattern}
    (member : p ∈ s.patterns) : p.pattern = NamedPattern.anchored p.declared ∧
      ∃ form, RegexLibrary.compileWithin sizeLimit p.pattern = .ok form := by
  unfold ofConstraints at h
  split at h
  · cases h
  · obtain ⟨l, compiled, same⟩ := Outcome.map_eq_ok_iff.1 h
    cases same
    obtain ⟨c, -, made⟩ := Outcome.exists_of_mem_mapM compiled member
    exact NamedPattern.of_ofConstraint made

/-- A value is accepted when every pattern on the field compiles to something that matches it. -/
theorem accepts_iff {s : PatternSet} {field value : String} :
    s.accepts field value = true ↔ ∀ p ∈ s.patterns, p.field = field →
      ∃ form, RegexLibrary.compile p.pattern = .ok form ∧
        RegexLibrary.isMatch form value = true := by
  simp only [accepts, forField, List.all_eq_true, List.mem_filter, decide_eq_true_eq, and_imp]
  refine forall₃_congr fun p _ _ => ?_
  cases RegexLibrary.compile p.pattern with
  | ok form => simp
  | error fault => simp

end PatternSet

theorem MaskRule.ready_of_mem {constraints : List Constraint} {m : TokenMask}
    (h : TokenMask.ofConstraints constraints = .ok (some m)) {rule : MaskRule}
    (member : rule ∈ m.rules) {source : String} (selects : rule.selects = .pattern source) :
    ∃ form, RegexLibrary.compile (NamedPattern.anchored source) = .ok form ∧
      rule.selects.ready = .ok (.pattern form) := by
  unfold TokenMask.ofConstraints at h
  split at h
  · cases h
  · obtain ⟨l, compiled, same⟩ := Outcome.map_eq_ok_iff.1 h
    cases same
    obtain ⟨c, -, made⟩ := Outcome.exists_of_mem_mapM compiled member
    obtain ⟨matcher, ready⟩ := ready_of_ofConstraint made
    rw [selects] at ready ⊢
    obtain ⟨form, built, rfl⟩ := Outcome.map_eq_ok_iff.1 ready
    exact ⟨form, built, ready⟩

/-- With any library that keeps to what is documented: if a declared pattern can be read by itself,
the form in which it was compiled matches exactly the values that it describes from the first to the
last character. This holds of patterns on fields, of the values that a field accepts, and of the
patterns of token rules. A field accepts nothing if a pattern on it was compiled with more room than
there is by default and needs it. -/
theorem compiled_forms_span_values (S : RegexLibrary.Semantics) (laws : S.Lawful) (sizeLimit : Nat)
    (constraints : List Constraint) :
    (∀ s, PatternSet.ofConstraints sizeLimit constraints = .ok (some s) →
      ∀ p ∈ s.patterns, ∀ e, RegexLibrary.read p.declared = .ok e →
        ∃ form, RegexLibrary.compileWithin sizeLimit p.pattern = .ok form ∧
          (∀ value, RegexLibrary.isMatch form value = true ↔ S.Spans e value) ∧
          (sizeLimit ≤ RegexLibrary.defaultLimit →
            ∃ form, RegexLibrary.compile p.pattern = .ok form)) ∧
    (∀ s, PatternSet.ofConstraints sizeLimit constraints = .ok (some s) → ∀ field,
      (∀ p ∈ s.patterns, p.field = field → ∃ e, RegexLibrary.read p.declared = .ok e) →
        ∀ value, s.accepts field value = true ↔ ∀ p ∈ s.patterns, p.field = field →
          (∃ form, RegexLibrary.compile p.pattern = .ok form) ∧
          ∀ e, RegexLibrary.read p.declared = .ok e → S.Spans e value) ∧
    (∀ m, TokenMask.ofConstraints constraints = .ok (some m) →
      ∀ rule ∈ m.rules, ∀ source, rule.selects = .pattern source →
      ∀ e, RegexLibrary.read source = .ok e →
        ∃ form, rule.selects.ready = .ok (.pattern form) ∧
          ∀ symbol, RegexLibrary.isMatch form symbol = true ↔ S.Spans e symbol) := by
  refine ⟨?_, ?_, ?_⟩
  · intro s made p member e readable
    obtain ⟨wrapped, form, compiled⟩ := PatternSet.of_mem made member
    refine ⟨form, compiled, fun value => ?_, fun small => laws.compileWithin_larger small compiled⟩
    rw [wrapped] at compiled
    exact laws.isMatch_anchored_iff readable compiled
  · intro s made field readable value
    rw [PatternSet.accepts_iff]
    refine forall₃_congr fun p member onField => ?_
    obtain ⟨wrapped, -⟩ := PatternSet.of_mem made member
    obtain ⟨e, meant⟩ := readable p member onField
    have whole : ∀ form, RegexLibrary.compile p.pattern = .ok form →
        (RegexLibrary.isMatch form value = true ↔ S.Spans e value) :=
      fun form compiled => laws.isMatch_anchored_iff meant (wrapped ▸ compiled)
    constructor
    · rintro ⟨form, compiled, hit⟩
      refine ⟨⟨form, compiled⟩, fun e' meant' => ?_⟩
      cases meant.symm.trans meant'
      exact (whole form compiled).1 hit
    · rintro ⟨⟨form, compiled⟩, spans⟩
      exact ⟨form, compiled, (whole form compiled).2 (spans e meant)⟩
  · intro m made rule member source selects e readable
    obtain ⟨form, compiled, ready⟩ := MaskRule.ready_of_mem made member selects
    exact ⟨form, ready, fun symbol => laws.isMatch_anchored_iff readable compiled⟩

end

/-- Two alternatives match as whole values. With a parenthesis turned around on either side of the
bar they cannot be read, but still compile, and then each is anchored at one end only. -/
theorem compiled_forms_alternatives :
    (∃ s, PatternSet.ofConstraints (2 ^ 20) [.ofRegex "r" .high "x" "a|b"] = .ok (some s) ∧
      s.accepts "x" "a" = true ∧ ¬ s.accepts "x" "ax" = true) ∧
    (∃ s, PatternSet.ofConstraints (2 ^ 20) [.ofRegex "r" .high "x" "a)|(b"] = .ok (some s) ∧
      (∀ e, ¬ Regex.read "a)|(b" = .ok e) ∧ s.accepts "x" "ax" = true) := by
  have made : PatternSet.ofConstraints (2 ^ 20) [.ofRegex "r" .high "x" "a|b"] =
      .ok (some ⟨[⟨"x", "^(?:a|b)$", "a|b", "r"⟩]⟩) := rfl
  have meant : Regex.read "a|b" = .ok (.alt (.set (.one 'a')) (.set (.one 'b'))) := rfl
  have readable : ∀ p ∈ [NamedPattern.mk "x" "^(?:a|b)$" "a|b" "r"], p.field = "x" →
      ∃ e, RegexLibrary.read p.declared = .ok e := by
    intro p member _
    rw [List.mem_singleton.1 member]
    exact ⟨_, meant⟩
  have decides :=
    (compiled_forms_span_values Regex.semantics Regex.semantics_lawful _ _).2.1 _ made "x" readable
  refine ⟨⟨_, made, (decides "a").2 ?_, fun accepted => ?_⟩, ⟨_, rfl, nofun, rfl⟩⟩
  · intro p member _
    rw [List.mem_singleton.1 member]
    refine ⟨⟨_, rfl⟩, fun e same => ?_⟩
    cases meant.symm.trans same
    exact ⟨Nat.zero_le _, .left (.set rfl rfl)⟩
  · obtain ⟨-, spans⟩ := ((decides "ax").1 accepted _ List.mem_cons_self rfl).2 _ meant
    cases spans with
    | left h => cases h
    | right h => cases h

end GuidedDecoding
