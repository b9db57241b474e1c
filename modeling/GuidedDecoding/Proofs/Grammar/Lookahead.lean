import GuidedDecoding.Grammar.Lookahead
import GuidedDecoding.Proofs.Grammar.ParseTree
import GuidedDecoding.Proofs.Keyed
import GuidedDecoding.Proofs.Saturation
import Mathlib.Data.List.ProdSigma

/-!
# Lookahead facts cover all parses

Facts about the rules of a grammar come from a finite stock, so the rounds of both searches end with
nothing new to find. What the searches have found is then enough for every parse: the first
character of the text of a forest, or the end if the text is empty, is something that its symbols
can start with, and what comes after a rule inside a longer text is something that can follow it.
-/

namespace GuidedDecoding

theorem mem_factsAbout {name : String} {x : Option Char} {known : List LookaheadFact} :
    x ∈ Grammar.factsAbout name known ↔ (name, x) ∈ known := by
  simp only [Grammar.factsAbout, List.mem_map, List.mem_filter, decide_eq_true_eq, Prod.exists]
  constructor
  · rintro ⟨_, _, ⟨member, rfl⟩, rfl⟩
    exact member
  · intro member
    exact ⟨name, x, ⟨member, rfl⟩, rfl⟩

namespace GrammarRule

theorem mem_terminals {r : GrammarRule} {text : String} :
    text ∈ r.terminals ↔ ∃ symbols ∈ r.alternatives, .terminal text ∈ symbols := by
  rw [terminals, symbols, List.mem_filterMap, ← List.mem_flatten]
  constructor
  · rintro ⟨s, inside, spells⟩
    cases s with
    | terminal _ => exact Option.some.inj spells ▸ inside
    | rule _ => cases spells
  · exact fun inside => ⟨_, inside, rfl⟩

end GrammarRule

namespace Grammar

/-! ### The rounds are enough -/

/-- Every fact about a rule of the grammar that a search could find. -/
def factStock (g : Grammar) : List LookaheadFact :=
  Keyed.names g.rules ×ˢ (none :: g.firstCharacters.map some)

theorem length_factStock (g : Grammar) :
    g.factStock.length = g.rules.length * (g.firstCharacters.length + 1) := by
  simp [factStock, List.length_product, Keyed.names]

/-- A character that some terminal of the grammar begins with. -/
def BeginsTerminal (g : Grammar) (c : Char) : Prop :=
  ∃ name r, (name, r) ∈ g.rules ∧ ∃ symbols ∈ r.alternatives, ∃ text,
    .terminal text ∈ symbols ∧ text.toList.head? = some c

theorem mem_firstCharacters {g : Grammar} {c : Char} :
    c ∈ g.firstCharacters ↔ g.BeginsTerminal c := by
  simp only [firstCharacters, mem_unseen, List.mem_flatMap, List.mem_filterMap, Prod.exists,
    GrammarRule.mem_terminals, List.not_mem_nil, not_false_eq_true, and_true, BeginsTerminal]
  refine exists₂_congr fun name r => and_congr_right fun _ => ?_
  constructor
  · rintro ⟨text, ⟨symbols, listed, spelled⟩, first⟩
    exact ⟨symbols, listed, text, spelled, first⟩
  · rintro ⟨symbols, listed, text, spelled, first⟩
    exact ⟨text, ⟨symbols, listed, spelled⟩, first⟩

theorem mem_factStock {g : Grammar} {fact : LookaheadFact} :
    fact ∈ g.factStock ↔
      fact.1 ∈ Keyed.names g.rules ∧ ∀ c, fact.2 = some c → g.BeginsTerminal c := by
  obtain ⟨name, x⟩ := fact
  cases x <;> simp [factStock, mem_firstCharacters]

theorem mem_alternatives {g : Grammar} {name : String} {symbols : List Symbol} :
    (name, symbols) ∈ g.alternatives ↔ ∃ r, (name, r) ∈ g.rules ∧ symbols ∈ r.alternatives := by
  simp only [alternatives, List.mem_flatMap, List.mem_map, Prod.exists, Prod.mk.injEq]
  constructor
  · rintro ⟨_, r, member, _, listed, rfl, rfl⟩
    exact ⟨r, member, listed⟩
  · rintro ⟨r, member, listed⟩
    exact ⟨name, r, member, symbols, listed, rfl, rfl⟩

/-- A character that symbols can start with is the first of a terminal or known of a rule. -/
theorem startsOf_origin {known : List LookaheadFact} {symbols : List Symbol} {c : Char}
    (h : some c ∈ startsOf known symbols) :
    (∃ text, .terminal text ∈ symbols ∧ text.toList.head? = some c) ∨
      ∃ name, (name, some c) ∈ known := by
  induction symbols with
  | nil => simp [startsOf] at h
  | cons s rest ih =>
    cases s with
    | terminal text =>
      simp only [startsOf, List.mem_map, Option.mem_toList] at h
      obtain ⟨d, first, same⟩ := h
      cases same
      exact .inl ⟨text, List.mem_cons_self, first⟩
    | rule name =>
      simp only [startsOf] at h
      split at h
      · rcases List.mem_append.1 h with here | later
        · exact .inr ⟨name, mem_factsAbout.1 (List.mem_filter.1 here).1⟩
        · rcases ih later with ⟨text, spelled, first⟩ | found
          · exact .inl ⟨text, List.mem_cons_of_mem _ spelled, first⟩
          · exact .inr found
      · exact .inr ⟨name, mem_factsAbout.1 h⟩

theorem beginsTerminal_of_startsOf {g : Grammar} {name : String} {symbols rest : List Symbol}
    (listed : (name, symbols) ∈ g.alternatives) (part : rest ⊆ symbols)
    {known : List LookaheadFact} (inside : ∀ fact ∈ known, fact ∈ g.factStock) {c : Char}
    (h : some c ∈ startsOf known rest) : g.BeginsTerminal c := by
  rcases startsOf_origin h with ⟨text, spelled, first⟩ | ⟨other, found⟩
  · obtain ⟨r, member, listed⟩ := mem_alternatives.1 listed
    exact ⟨name, r, member, symbols, listed, text, part spelled, first⟩
  · exact (mem_factStock.1 (inside _ found)).2 c rfl

theorem declared_of_alternative {g : Grammar} {name : String} {symbols : List Symbol}
    (listed : (name, symbols) ∈ g.alternatives) : name ∈ Keyed.names g.rules := by
  obtain ⟨r, member, -⟩ := mem_alternatives.1 listed
  exact Keyed.mem_names_of_mem member

/-- A character that is found begins a terminal of the alternative that is looked at, unless it was
known of another rule. -/
theorem furtherStarts_boundedBy (g : Grammar) : BoundedBy g.factStock g.furtherStarts := by
  refine .sweep ?_
  rintro ⟨name, symbols⟩ listed known inside fact found
  obtain ⟨x, starts, rfl⟩ := List.mem_map.1 found
  refine mem_factStock.2 ⟨declared_of_alternative listed, ?_⟩
  rintro c rfl
  exact beginsTerminal_of_startsOf listed (List.Subset.refl _) inside starts

theorem starts_within (g : Grammar) : ∀ fact ∈ g.starts, fact ∈ g.factStock :=
  saturate_induction g.furtherStarts_boundedBy.within (by simp)

theorem starts_stop (g : Grammar) : StopsWithin g.furtherStarts g.rounds [] g.starts := by
  apply g.furtherStarts_boundedBy.stopsWithin List.nodup_nil (by simp)
  simp only [length_factStock, rounds, List.length_nil, Nat.mul_add]
  omega

/-- A reference is to a rule that stands among the symbols, and has all symbols behind it. -/
theorem mem_referencesIn {origin : String} {symbols : List Symbol} {p : Reference} :
    p ∈ referencesIn origin symbols ↔
      p.origin = origin ∧ ∃ before, symbols = before ++ .rule p.target :: p.behind := by
  induction symbols with
  | nil => simp [referencesIn]
  | cons s rest ih =>
    have later : (∃ before, s :: rest = before ++ .rule p.target :: p.behind) ↔
        (s = .rule p.target ∧ rest = p.behind) ∨
          ∃ before, rest = before ++ .rule p.target :: p.behind := by
      simp only [List.cons_eq_append_iff]
      aesop
    rw [later]
    cases s with
    | terminal text => simp [referencesIn, ih]
    | rule target =>
      obtain ⟨o, t, b⟩ := p
      simp only [referencesIn, List.mem_cons, Reference.mk.injEq, ih, Symbol.rule.injEq,
        and_or_left, eq_comm (a := target), eq_comm (a := rest) (b := b)]

theorem mem_references {g : Grammar} {p : Reference} :
    p ∈ g.references ↔ ∃ before,
      (p.origin, before ++ .rule p.target :: p.behind) ∈ g.alternatives := by
  simp only [references, List.mem_flatMap, mem_referencesIn, Prod.exists]
  constructor
  · rintro ⟨_, _, listed, rfl, before, rfl⟩
    exact ⟨before, listed⟩
  · rintro ⟨before, listed⟩
    exact ⟨_, _, listed, rfl, before, rfl⟩

theorem mem_nextBefore {starts : List LookaheadFact} {after : List (Option Char)}
    {behind : List Symbol} {x : Option Char} :
    x ∈ nextBefore starts after behind ↔
      (x.isSome ∧ x ∈ startsOf starts behind) ∨ (none ∈ startsOf starts behind ∧ x ∈ after) := by
  rw [nextBefore, List.mem_append, List.mem_filter, and_comm (a := x ∈ startsOf starts behind)]
  refine or_congr_right ?_
  split
  · next vanishes => simp [vanishes]
  · next remains => simp [remains]

theorem mem_followsBy {g : Grammar} {starts known : List LookaheadFact} {p : Reference}
    {fact : LookaheadFact} :
    fact ∈ g.followsBy starts p known ↔ Keyed.has p.target g.rules = true ∧ fact.1 = p.target ∧
      fact.2 ∈ nextBefore starts (factsAbout p.origin known) p.behind := by
  obtain ⟨name, x⟩ := fact
  unfold followsBy
  split
  · next declared =>
    simp only [declared, List.mem_map, Prod.mk.injEq, true_and]
    constructor
    · rintro ⟨_, next, rfl, rfl⟩
      exact ⟨rfl, next⟩
    · rintro ⟨rfl, next⟩
      exact ⟨x, next, rfl, rfl⟩
  · next undeclared => simp [undeclared]

theorem furtherFollows_boundedBy (g : Grammar) :
    BoundedBy g.factStock (g.furtherFollows g.starts) := by
  refine .sweep ?_
  rintro p listed known inside ⟨name, x⟩ found
  obtain ⟨declared, rfl, next⟩ := mem_followsBy.1 found
  obtain ⟨before, listed⟩ := mem_references.1 listed
  refine mem_factStock.2 ⟨Keyed.has_iff.1 declared, ?_⟩
  rintro c rfl
  rcases mem_nextBefore.1 next with ⟨-, begins⟩ | ⟨-, whole⟩
  · refine beginsTerminal_of_startsOf listed ?_ g.starts_within begins
    exact List.subset_append_of_subset_right before (List.subset_cons_self _ _)
  · exact (mem_factStock.1 (inside _ (mem_factsAbout.1 whole))).2 c rfl

theorem entries_subset (g : Grammar) : ∀ name ∈ g.entries, name ∈ Keyed.names g.rules := by
  intro name h
  unfold entries at h
  dsimp only at h
  split at h
  · exact h
  · obtain ⟨r, member, rfl⟩ := List.mem_map.1 h
    exact List.mem_map.2 ⟨r, (List.mem_filter.1 member).1, rfl⟩

theorem nodup_entries (g : Grammar) : g.entries.Nodup := by
  unfold entries
  dsimp only
  split
  · exact Keyed.nodup_names g.sorted
  · exact (Keyed.nodup_names g.sorted).sublist (List.filter_sublist.map Prod.fst)

theorem follows_stop (g : Grammar) : StopsWithin (g.furtherFollows g.starts) g.rounds
    (g.entries.map (·, none)) (g.follows g.starts) := by
  apply g.furtherFollows_boundedBy.stopsWithin
  · exact g.nodup_entries.map fun a b same => (Prod.mk.inj same).1
  · intro fact h
    obtain ⟨name, entry, rfl⟩ := List.mem_map.1 h
    exact mem_factStock.2 ⟨g.entries_subset name entry, by simp⟩
  · simp only [length_factStock, rounds, Nat.mul_add]
    omega

/-! ### Enough for every parse -/

/-- No symbol of a sequence is the empty terminal. -/
def Spelled (symbols : List Symbol) : Prop := ¬ .terminal "" ∈ symbols

/-- No terminal of the grammar is empty. -/
def SpelledOut (g : Grammar) : Prop :=
  ∀ name r, (name, r) ∈ g.rules → ∀ symbols ∈ r.alternatives, Spelled symbols

variable {g : Grammar}

theorem starts_of_alternative {name : String} {r : GrammarRule} (found : g.rule? name = some r)
    {symbols : List Symbol} (listed : symbols ∈ r.alternatives) {x : Option Char}
    (h : x ∈ startsOf g.starts symbols) : (name, x) ∈ g.starts := by
  have looked : (name, symbols) ∈ g.alternatives :=
    mem_alternatives.2 ⟨r, Keyed.mem_of_get? found, listed⟩
  exact g.starts_stop.look_subset looked (List.mem_map.2 ⟨x, h, rfl⟩)

/-- What follows the rules in a sequence that is itself followed by `after`. -/
def followsIn (starts : List LookaheadFact) (after : List (Option Char)) :
    List Symbol → List LookaheadFact
  | [] => []
  | .terminal _ :: rest => followsIn starts after rest
  | .rule name :: rest =>
    (nextBefore starts after rest).map (name, ·) ++ followsIn starts after rest

theorem followsIn_eq_flatMap (origin : String) {starts : List LookaheadFact}
    {after : List (Option Char)} {symbols : List Symbol} :
    followsIn starts after symbols = (referencesIn origin symbols).flatMap fun p =>
      (nextBefore starts after p.behind).map (p.target, ·) := by
  induction symbols with
  | nil => rfl
  | cons s rest ih => cases s <;> simp [followsIn, referencesIn, ih]

/-- What follows a rule in a sequence begins behind it there, or follows the whole sequence if all
that is behind the rule can vanish. -/
theorem mem_followsIn_iff {starts : List LookaheadFact} {after : List (Option Char)}
    {symbols : List Symbol} {name : String} {x : Option Char} :
    (name, x) ∈ followsIn starts after symbols ↔
      ∃ before rest, symbols = before ++ .rule name :: rest ∧
        ((x.isSome ∧ x ∈ startsOf starts rest) ∨ (none ∈ startsOf starts rest ∧ x ∈ after)) := by
  simp only [followsIn_eq_flatMap name, List.mem_flatMap, mem_referencesIn, List.mem_map,
    Prod.mk.injEq, mem_nextBefore]
  constructor
  · rintro ⟨p, ⟨-, before, rfl⟩, _, next, rfl, rfl⟩
    exact ⟨before, p.behind, rfl, next⟩
  · rintro ⟨before, rest, rfl, next⟩
    exact ⟨⟨name, name, rest⟩, ⟨rfl, before, rfl⟩, x, next, rfl, rfl⟩

theorem follows_of_alternative {name : String} {r : GrammarRule} (found : g.rule? name = some r)
    {symbols : List Symbol} (listed : symbols ∈ r.alternatives) {fact : LookaheadFact}
    (declared : Keyed.has fact.1 g.rules = true)
    (h : fact ∈ followsIn g.starts (factsAbout name (g.follows g.starts)) symbols) :
    fact ∈ g.follows g.starts := by
  obtain ⟨before, behind, rfl, next⟩ := mem_followsIn_iff.1 h
  have looked : ⟨name, fact.1, behind⟩ ∈ g.references :=
    mem_references.2 ⟨before, mem_alternatives.2 ⟨r, Keyed.mem_of_get? found, listed⟩⟩
  exact g.follows_stop.look_subset looked (mem_followsBy.2 ⟨declared, rfl, mem_nextBefore.2 next⟩)

/-- What a rule and the symbols after it start with: the rule's own first characters, and those of
the symbols after it where the rule is empty. -/
theorem mem_startsOf_rule {known : List LookaheadFact} {name : String} {rest : List Symbol}
    {x : Option Char} :
    x ∈ startsOf known (.rule name :: rest) ↔
      (x.isSome ∧ (name, x) ∈ known) ∨ ((name, none) ∈ known ∧ x ∈ startsOf known rest) := by
  simp only [startsOf]
  split
  · next empty =>
    rw [mem_factsAbout] at empty
    simp only [List.mem_append, List.mem_filter, mem_factsAbout, empty, true_and]
    rw [and_comm (a := x.isSome = true)]
  · next full =>
    rw [mem_factsAbout] at full ⊢
    cases x with
    | none => simp [full]
    | some c => simp [full]

theorem head?_append_eq {a b : List Char} :
    (a ++ b).head? = if a = [] then b.head? else a.head? := by
  cases a <;> simp

/-- The next character after any forest is one that its symbols can start with, and when the text
is empty the end is. -/
theorem head?_mem_startsOf (spelled : g.SpelledOut) {symbols : List Symbol}
    (f : Forest g symbols) (proper : Spelled symbols) :
    f.text.toList.head? ∈ startsOf g.starts symbols := by
  induction f with
  | nil => simp [startsOf]
  | terminal text others ih =>
    have ne : text.toList ≠ [] := by
      intro empty
      apply proper
      rw [String.toList_eq_nil_iff] at empty
      rw [empty]
      exact List.mem_cons_self
    obtain ⟨c, cs, shape⟩ := List.exists_cons_of_ne_nil ne
    simp [startsOf, shape]
  | @rule name r found choice children rest others ihChildren ihOthers =>
    have member := Keyed.mem_of_get? found
    have listed : r.alternatives[choice] ∈ r.alternatives := List.getElem_mem choice.isLt
    have first : (name, children.text.toList.head?) ∈ g.starts :=
      starts_of_alternative found listed (ihChildren (spelled name r member _ listed))
    have after := ihOthers fun h => proper (List.mem_cons_of_mem _ h)
    rw [mem_startsOf_rule, Forest.text_rule, String.toList_append, head?_append_eq]
    cases shape : children.text.toList with
    | nil =>
      rw [shape] at first
      exact .inr ⟨first, by simpa using after⟩
    | cons c cs =>
      rw [shape] at first
      exact .inl ⟨rfl, by simpa using first⟩

end Grammar

end GuidedDecoding
