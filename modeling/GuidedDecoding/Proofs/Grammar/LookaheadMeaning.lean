import GuidedDecoding.Proofs.Grammar.Accepted
import GuidedDecoding.Proofs.Grammar.SententialForm

/-!
# Lookahead facts mean what derivations show

The two searches for lookahead facts find what sentential forms show and nothing else. Each round
adds only facts that some form bears out. In the other direction, no expansion brings a first
character to a sequence that it did not have, because the facts are closed under their rules; and
whatever begins behind a rule of a form was found to follow it, however long the expansion that led
to the form.

With that the check for ambiguity is said in terms of forms alone (`MergedRules.lookahead_exact`).
-/

namespace GuidedDecoding

namespace Grammar

/-- What symbols can start with: a character that begins one of their forms, or the end if all of
them can vanish. -/
def CanStart (g : Grammar) (symbols : List Symbol) : Option Char → Prop
  | some c => ∃ text rest, g.Reaches symbols (.terminal text :: rest) ∧ text.toList.head? = some c
  | none => g.Reaches symbols []

/-- A character follows a rule in some form of some rule. -/
def CanFollow (g : Grammar) (name : String) (c : Char) : Prop :=
  ∃ origin ∈ Keyed.names g.rules, ∃ before text after,
    g.Reaches [.rule origin] (before ++ .rule name :: .terminal text :: after) ∧
      text.toList.head? = some c

variable {g : Grammar} {known : List LookaheadFact} {symbols : List Symbol} {x : Option Char}

/-! ### What symbols can start with -/

theorem CanStart.of_reaches {form : List Symbol} (h : g.Reaches symbols form)
    (starts : g.CanStart form x) : g.CanStart symbols x := by
  cases x with
  | none => exact h.trans starts
  | some c =>
    obtain ⟨text, rest, later, first⟩ := starts
    exact ⟨text, rest, h.trans later, first⟩

/-- If the facts about rules are borne out, so is what symbols start with by those facts. -/
theorem canStart_of_mem_startsOf (sound : ∀ fact ∈ known, g.CanStart [.rule fact.1] fact.2)
    (h : x ∈ startsOf known symbols) : g.CanStart symbols x := by
  induction symbols with
  | nil =>
    rw [startsOf, List.mem_singleton] at h
    rw [h]
    exact .refl []
  | cons s rest ih =>
    cases s with
    | terminal text =>
      simp only [startsOf, List.mem_map, Option.mem_toList] at h
      obtain ⟨c, first, rfl⟩ := h
      exact ⟨text, rest, .refl _, first⟩
    | rule name =>
      rcases mem_startsOf_rule.1 h with ⟨character, found⟩ | ⟨vanishes, later⟩
      · obtain ⟨c, rfl⟩ := Option.isSome_iff_exists.1 character
        obtain ⟨text, back, reached, first⟩ := sound _ found
        exact ⟨text, back ++ rest, reached.append_right rest, first⟩
      · exact (ih later).of_reaches (Reaches.append_right (sound _ vanishes) rest)

theorem starts_sound : ∀ fact ∈ g.starts, g.CanStart [.rule fact.1] fact.2 := by
  refine saturate_induction (fun known sound => sweep_induction sound ?_) (by simp)
  rintro ⟨name, symbols⟩ listed known sound fact h
  obtain ⟨r, member, listed⟩ := mem_alternatives.1 listed
  obtain ⟨x, starts, rfl⟩ := List.mem_map.1 h
  have found : g.rule? name = some r := Keyed.get?_of_mem g.sorted member
  exact (canStart_of_mem_startsOf sound starts).of_reaches (.of_alternative found listed)

/-- What two sequences start with, one after the other. -/
theorem mem_startsOf_append {after : List Symbol} :
    x ∈ startsOf known (symbols ++ after) ↔
      (x.isSome ∧ x ∈ startsOf known symbols) ∨
        (none ∈ startsOf known symbols ∧ x ∈ startsOf known after) := by
  induction symbols with
  | nil => cases x <;> simp [startsOf]
  | cons s rest ih =>
    cases s with
    | terminal text => cases x <;> simp [startsOf]
    | rule name =>
      rw [List.cons_append]
      simp only [mem_startsOf_rule, ih, Option.isSome_none, Bool.false_eq_true, false_and, false_or]
      tauto

/-- Expanding a sequence does not let it start with anything new. -/
theorem Expands.mem_startsOf {form other : List Symbol} (h : g.Expands form other)
    (starts : x ∈ startsOf g.starts other) : x ∈ startsOf g.starts form := by
  obtain ⟨before, after, found, listed⟩ := h
  rw [mem_startsOf_append] at starts ⊢
  refine starts.imp_right fun ⟨vanishes, later⟩ => ⟨vanishes, ?_⟩
  rw [mem_startsOf_append] at later
  rw [mem_startsOf_rule]
  rcases later with ⟨character, begins⟩ | ⟨empty, behind⟩
  · exact .inl ⟨character, starts_of_alternative found listed begins⟩
  · exact .inr ⟨starts_of_alternative found listed empty, behind⟩

theorem Reaches.mem_startsOf {form : List Symbol} (h : g.Reaches symbols form)
    (starts : x ∈ startsOf g.starts form) : x ∈ startsOf g.starts symbols := by
  induction h with
  | refl => exact starts
  | tail _ step ih => exact ih (step.mem_startsOf starts)

/-- Symbols start with what the facts about rules say, and with nothing else. -/
theorem mem_startsOf_iff : x ∈ startsOf g.starts symbols ↔ g.CanStart symbols x := by
  refine ⟨canStart_of_mem_startsOf starts_sound, fun h => ?_⟩
  cases x with
  | none => exact Reaches.mem_startsOf h (by simp [startsOf])
  | some c =>
    obtain ⟨text, rest, reached, first⟩ := h
    exact reached.mem_startsOf (by simp [startsOf, first])

theorem mem_starts_iff {name : String} : (name, x) ∈ g.starts ↔ g.CanStart [.rule name] x := by
  rw [← mem_startsOf_iff, mem_startsOf_rule]
  cases x <;> simp [startsOf]

/-- In a grammar without empty terminals, symbols vanish exactly when they derive the empty
text. -/
theorem reaches_nil_iff (spelled : g.SpelledOut) (proper : Spelled symbols) :
    g.Reaches symbols [] ↔ g.Derives symbols "" := by
  constructor
  · exact fun h => h.derives (derives_nil.2 rfl)
  · rintro ⟨f, empty⟩
    have starts := head?_mem_startsOf spelled f proper
    rw [empty] at starts
    exact mem_startsOf_iff.1 starts

/-! ### What can follow a rule -/

/-- A member of two lists, one after the other, stands in the first or in the second. -/
theorem append_cons_eq_append_iff {s : Symbol} {before rest front back : List Symbol} :
    before ++ s :: rest = front ++ back ↔
      (∃ between, front = before ++ s :: between ∧ rest = between ++ back) ∨
        ∃ between, before = front ++ between ∧ back = between ++ s :: rest := by
  constructor
  · intro same
    rcases List.append_eq_append_iff.1 same with ⟨part, rfl, shape⟩ | inBack
    · rcases List.cons_eq_append_iff.1 shape with ⟨rfl, rfl⟩ | inFront
      · exact .inr ⟨[], by simp, rfl⟩
      · obtain ⟨between, rfl, rfl⟩ := inFront
        exact .inl ⟨between, rfl, rfl⟩
    · exact .inr inBack
  · rintro (⟨between, rfl, rfl⟩ | ⟨between, rfl, rfl⟩) <;> simp

/-- Every fact about what follows a rule is borne out by a form. -/
theorem follows_sound {c : Char} : ∀ fact ∈ g.follows g.starts, fact.2 = some c →
    g.CanFollow fact.1 c := by
  refine saturate_induction (p := fun fact : LookaheadFact =>
    fact.2 = some c → g.CanFollow fact.1 c) (fun known sound => sweep_induction sound ?_) ?_
  · rintro ⟨origin, _, rest⟩ listed known sound ⟨name, x⟩ h rfl
    obtain ⟨-, rfl, next⟩ := mem_followsBy.1 h
    obtain ⟨before, listed⟩ := mem_references.1 listed
    obtain ⟨r, member, listed⟩ := mem_alternatives.1 listed
    have found : g.rule? origin = some r := Keyed.get?_of_mem g.sorted member
    rcases mem_nextBefore.1 next with ⟨-, begins⟩ | ⟨vanishes, whole⟩
    · obtain ⟨text, back, reached, first⟩ := mem_startsOf_iff.1 begins
      refine ⟨origin, Keyed.mem_names_of_mem member, before, text, back, ?_, first⟩
      refine (Reaches.of_alternative found listed).trans ?_
      have placed := reached.append_left (before ++ [.rule name])
      simpa only [List.append_assoc, List.cons_append, List.nil_append] using placed
    · obtain ⟨top, declared, front, text, back, reached, first⟩ :=
        sound _ (mem_factsAbout.1 whole) rfl
      refine ⟨top, declared, front ++ before, text, back, reached.trans ?_, first⟩
      have expanded := (Reaches.of_alternative found listed).within front (.terminal text :: back)
      have vanished := Reaches.within (mem_startsOf_iff.1 vanishes)
        (front ++ (before ++ [.rule name])) (.terminal text :: back)
      simp only [List.append_assoc, List.cons_append, List.nil_append] at expanded vanished ⊢
      exact expanded.trans vanished
  · intro fact h isChar
    obtain ⟨name, -, rfl⟩ := List.mem_map.1 h
    cases isChar

/-- Whatever begins behind a rule of a sequence was found to follow it. -/
def Covered (g : Grammar) (form : List Symbol) : Prop :=
  ∀ before name rest, form = before ++ .rule name :: rest → name ∈ Keyed.names g.rules →
    ∀ c, some c ∈ startsOf g.starts rest → (name, some c) ∈ g.follows g.starts

theorem covered_rule {name : String} : g.Covered [.rule name] := by
  intro before other rest shape _ c begins
  cases before with
  | nil =>
    obtain ⟨-, rfl⟩ := List.cons.inj shape
    simp [startsOf] at begins
  | cons s before => simp at shape

/-- Expanding a form keeps it covered. The rule in question stands before the rule that gives way,
in the alternative that takes its place, or behind it. -/
theorem Covered.expands {form other : List Symbol} (h : g.Covered form)
    (step : g.Expands form other) : g.Covered other := by
  obtain @⟨front, back, name, r, symbols, found, listed⟩ := step
  have declared : name ∈ Keyed.names g.rules := Keyed.mem_names_of_get? found
  intro before target rest shape known c begins
  rcases append_cons_eq_append_iff.1 shape.symm with ⟨between, rfl, rfl⟩ | ⟨part, rfl, inside⟩
  · refine h before target (between ++ .rule name :: back) (by simp) known c ?_
    exact (Expands.step between back found listed).mem_startsOf begins
  rcases append_cons_eq_append_iff.1 inside.symm with ⟨between, rfl, rfl⟩ | ⟨between, rfl, rfl⟩
  · refine follows_of_alternative found listed (Keyed.has_iff.2 known)
      (mem_followsIn_iff.2 ⟨part, between, rfl, ?_⟩)
    rcases mem_startsOf_append.1 begins with here | ⟨vanishes, behind⟩
    · exact .inl here
    · have follows := h front name back rfl declared c behind
      exact .inr ⟨vanishes, mem_factsAbout.2 follows⟩
  · exact h (front ++ .rule name :: between) target rest (by simp) known c begins

theorem Covered.reaches {form : List Symbol} (h : g.Covered symbols)
    (reached : g.Reaches symbols form) : g.Covered form := by
  induction reached with
  | refl => exact h
  | tail _ step ih => exact ih.expands step

/-- The characters found to follow a rule are those that follow it in some form. -/
theorem mem_follows_iff {name : String} (declared : name ∈ Keyed.names g.rules) {c : Char} :
    (name, some c) ∈ g.follows g.starts ↔ g.CanFollow name c := by
  refine ⟨fun h => follows_sound _ h rfl, ?_⟩
  rintro ⟨origin, -, before, text, after, reached, first⟩
  refine covered_rule.reaches reached before name (.terminal text :: after) rfl declared c ?_
  simp [startsOf, first]

/-! ### What the next character cannot decide -/

/-- The next character does not tell which of two alternatives of a rule to take: both can start
with it, both can be empty, or one can be empty and the other start with what follows the rule. -/
def Undecided (g : Grammar) (name : String) (one other : List Symbol) : Prop :=
  (∃ c, g.CanStart one (some c) ∧ g.CanStart other (some c)) ∨
    (g.Derives one "" ∧ g.Derives other "") ∨
    ∃ c, g.CanFollow name c ∧ ((g.Derives one "" ∧ g.CanStart other (some c)) ∨
      (g.Derives other "" ∧ g.CanStart one (some c)))

theorem toldApart_iff (spelled : g.SpelledOut) {name : String} {r : GrammarRule}
    (member : (name, r) ∈ g.rules) {one other : List Symbol} (listed : one ∈ r.alternatives)
    (listed' : other ∈ r.alternatives) :
    ToldApart (factsAbout name (g.follows g.starts)) (startsOf g.starts one)
      (startsOf g.starts other) ↔ ¬ g.Undecided name one other := by
  have declared : name ∈ Keyed.names g.rules := Keyed.mem_names_of_mem member
  have empty {symbols : List Symbol} (inRule : symbols ∈ r.alternatives) :
      none ∈ startsOf g.starts symbols ↔ g.Derives symbols "" :=
    mem_startsOf_iff.trans (reaches_nil_iff spelled (spelled name r member symbols inRule))
  constructor
  · rintro apart (⟨c, first, shared⟩ | both | ⟨c, follows, case⟩)
    · exact apart.disjoint c (mem_startsOf_iff.2 first) (mem_startsOf_iff.2 shared)
    · exact apart.notBothEmpty ⟨(empty listed).2 both.1, (empty listed').2 both.2⟩
    · have behind := mem_factsAbout.2 ((mem_follows_iff declared).2 follows)
      rcases case with ⟨vanishes, first⟩ | ⟨vanishes, first⟩
      · exact apart.oneEmpty ((empty listed).2 vanishes) c (mem_startsOf_iff.2 first) behind
      · exact apart.otherEmpty ((empty listed').2 vanishes) c (mem_startsOf_iff.2 first) behind
  · intro decided
    have follows {c : Char} (behind : some c ∈ factsAbout name (g.follows g.starts)) :
        g.CanFollow name c := (mem_follows_iff declared).1 (mem_factsAbout.1 behind)
    exact {
      disjoint := fun c first shared =>
        decided (.inl ⟨c, mem_startsOf_iff.1 first, mem_startsOf_iff.1 shared⟩)
      notBothEmpty := fun both =>
        decided (.inr (.inl ⟨(empty listed).1 both.1, (empty listed').1 both.2⟩))
      oneEmpty := fun vanishes c first behind => decided (.inr (.inr
        ⟨c, follows behind, .inl ⟨(empty listed).1 vanishes, mem_startsOf_iff.1 first⟩⟩))
      otherEmpty := fun vanishes c first behind => decided (.inr (.inr
        ⟨c, follows behind, .inr ⟨(empty listed').1 vanishes, mem_startsOf_iff.1 first⟩⟩)) }

/-- A grammar is predictive when its forms leave nothing undecided. -/
theorem predictive_iff (spelled : g.SpelledOut) :
    g.Predictive ↔ ∀ name r, (name, r) ∈ g.rules →
      r.alternatives.Pairwise fun one other => ¬ g.Undecided name one other := by
  refine forall₃_congr fun name r member => ?_
  refine List.Pairwise.iff_of_mem fun listed listed' => ?_
  exact toldApart_iff spelled member listed listed'

theorem Undecided.symm {name : String} {one other : List Symbol}
    (h : g.Undecided name one other) : g.Undecided name other one := by
  rcases h with ⟨c, first, shared⟩ | ⟨empty, empty'⟩ | ⟨c, follows, case⟩
  · exact .inl ⟨c, shared, first⟩
  · exact .inr (.inl ⟨empty', empty⟩)
  · exact .inr (.inr ⟨c, follows, case.symm⟩)

/-- Among alternatives some two are undecided, at different places. -/
theorem not_pairwise_decided_iff {name : String} {alternatives : List (List Symbol)} :
    (¬ alternatives.Pairwise fun one other => ¬ g.Undecided name one other) ↔
      ∃ i j : Fin alternatives.length, i ≠ j ∧
        g.Undecided name (alternatives.get i) (alternatives.get j) := by
  rw [List.pairwise_iff_getElem]
  push Not
  constructor
  · rintro ⟨i, j, hi, hj, lt, undecided⟩
    exact ⟨⟨i, hi⟩, ⟨j, hj⟩, Fin.ne_of_val_ne (Nat.ne_of_lt lt), undecided⟩
  · rintro ⟨i, j, ne, undecided⟩
    rcases Nat.lt_or_gt_of_ne (Fin.val_ne_of_ne ne) with lt | gt
    · exact ⟨i, j, i.isLt, j.isLt, lt, undecided⟩
    · exact ⟨j, i, j.isLt, i.isLt, gt, undecided.symm⟩

end Grammar

namespace MergedRules

/-- What is found is an ambiguity, unless nothing is. -/
theorem exists_ambiguous?_iff {m : MergedRules} :
    (∃ rule ids reason, m.ambiguous? = some (.ambiguousGrammar rule ids reason)) ↔
      ¬ m.toGrammar.Predictive := by
  rw [← ambiguous?_eq_none_iff]
  constructor
  · rintro ⟨rule, ids, reason, found⟩ none_found
    rw [none_found] at found
    cases found
  · intro found
    obtain ⟨e, found⟩ := Option.ne_none_iff_exists'.1 found
    obtain ⟨r, -, inRule⟩ := List.exists_of_findSome?_eq_some found
    obtain ⟨a, -, rfl⟩ := Option.map_eq_some_iff.1 inRule
    exact ⟨_, _, _, found⟩

/-- What is said of the rules of a grammar without empty terminals is what its forms show: the rules
that can be empty are those that derive the empty text, the first characters of a rule begin a form
of it, and the characters behind a rule follow it in some form. The check finds an ambiguity exactly
when the next character leaves two alternatives of some rule undecided. -/
theorem lookahead_exact (m : MergedRules) (spelled : m.toGrammar.SpelledOut) :
    (∀ name, (name, none) ∈ m.toGrammar.starts ↔ m.toGrammar.Derives [.rule name] "") ∧
    (∀ name c, (name, some c) ∈ m.toGrammar.starts ↔
      m.toGrammar.CanStart [.rule name] (some c)) ∧
    (∀ name ∈ Keyed.names m.toGrammar.rules, ∀ c,
      (name, some c) ∈ m.toGrammar.follows m.toGrammar.starts ↔ m.toGrammar.CanFollow name c) ∧
    ((∃ rule ids reason, m.ambiguous? = some (.ambiguousGrammar rule ids reason)) ↔
      ∃ name r, (name, r) ∈ m.toGrammar.rules ∧ ∃ i j : Fin r.alternatives.length, i ≠ j ∧
        m.toGrammar.Undecided name (r.alternatives.get i) (r.alternatives.get j)) := by
  refine ⟨fun name => ?_, fun name c => Grammar.mem_starts_iff,
    fun name declared c => Grammar.mem_follows_iff declared, ?_⟩
  · exact Grammar.mem_starts_iff.trans (Grammar.reaches_nil_iff spelled (by simp [Grammar.Spelled]))
  · rw [exists_ambiguous?_iff, Grammar.predictive_iff spelled]
    push Not
    simp only [Grammar.not_pairwise_decided_iff]

/-- Two rules that can be empty, one behind the other, that begin alike. -/
def sharedBorder : List Constraint :=
  [.ofProduction "pair" .high "pair" [[.rule "left", .rule "right"]],
    .ofProduction "left" .high "left" [[], [.terminal "a"]],
    .ofProduction "right" .high "right" [[.rule "left", .terminal "ab"], []]]

theorem lookahead_exact_sharedBorder : ∃ m, ofConstraints sharedBorder = .ok m ∧
    m.toGrammar.SpelledOut ∧ m.toGrammar.Derives [.rule "pair"] "" ∧
    m.toGrammar.CanStart [.rule "right"] (some 'a') ∧ m.toGrammar.CanFollow "left" 'a' ∧
    ∃ name r, (name, r) ∈ m.toGrammar.rules ∧ ∃ i j : Fin r.alternatives.length, i ≠ j ∧
      m.toGrammar.Undecided name (r.alternatives.get i) (r.alternatives.get j) := by
  have merged : ofConstraints sharedBorder = .ok _ := rfl
  have spelled := (Sound.ofConstraints merged).spelledOut
  obtain ⟨empty, first, follows, ambiguous⟩ := lookahead_exact _ spelled
  refine ⟨_, merged, spelled, (empty _).1 ?_, (first _ _).1 ?_, (follows _ ?_ _).1 ?_,
    ambiguous.1 ⟨_, _, _, rfl⟩⟩
  · decide
  · decide
  · decide
  · decide

end MergedRules

end GuidedDecoding
