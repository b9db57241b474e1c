import GuidedDecoding.Proofs.Grammar.Accepted

/-!
# Accepted grammars are unambiguous

In a predictive grammar the next character tells apart the alternatives of every rule. Two forests
of the same symbols are then equal as soon as their texts, each with something behind it that can
follow, are the same: the alternatives at the first rule agree, so do the forests below it, and what
is left of the texts is the same again. A whole text is the case with nothing behind it.

Merging only accepts terminals that are not empty, and the check for ambiguity accepts predictive
grammars only. Neither left recursion nor unreachable rules need a case of their own, since the
induction is on the forests.
-/

namespace GuidedDecoding

namespace Grammar

/-- The text that comes next begins with one of some characters, or is empty. -/
def Continues (after : List (Option Char)) (next : List Char) : Prop :=
  ∀ c, next.head? = some c → some c ∈ after

end Grammar

/-- Texts that begin as different choices do are different, whatever comes after them. -/
theorem ToldApart.append_ne {after one other : List (Option Char)} (h : ToldApart after one other)
    {a b u v : List Char} (begins : a.head? ∈ one) (starts : b.head? ∈ other)
    (afterA : Grammar.Continues after u) (afterB : Grammar.Continues after v) :
    a ++ u ≠ b ++ v := by
  intro same
  cases a with
  | nil =>
    cases b with
    | nil => exact h.notBothEmpty ⟨begins, starts⟩
    | cons d ds =>
      rw [List.nil_append] at same
      exact h.oneEmpty begins d starts (afterA d (by simp [same]))
  | cons c cs =>
    cases b with
    | nil =>
      rw [List.nil_append] at same
      exact h.otherEmpty starts c begins (afterB c (by simp [← same]))
    | cons d ds =>
      obtain ⟨rfl, -⟩ := List.cons.inj same
      exact h.disjoint c begins starts

namespace Grammar

variable {g : Grammar}

theorem Predictive.told_apart (predictive : g.Predictive) {name : String} {r : GrammarRule}
    (found : g.rule? name = some r) {i j : Fin r.alternatives.length} (ne : i ≠ j) :
    ToldApart (factsAbout name (g.follows g.starts)) (startsOf g.starts (r.alternatives.get i))
      (startsOf g.starts (r.alternatives.get j)) := by
  have pairs := List.pairwise_iff_getElem.1 (predictive name r (Keyed.mem_of_get? found))
  rcases Nat.lt_or_gt_of_ne (Fin.val_ne_of_ne ne) with lt | gt
  · exact pairs i j i.isLt j.isLt lt
  · exact (pairs j i j.isLt i.isLt gt).symm

/-- What comes after a rule among symbols is what the rest of them spells, and then what comes after
the whole; it begins with something that can follow the rule. -/
theorem continues_others (spelled : g.SpelledOut) {name : String} {rest : List Symbol}
    (declared : Keyed.has name g.rules = true) (others : Forest g rest) (proper : Spelled rest)
    {after : List (Option Char)} {next : List Char} (continues : Continues after next)
    (covered : ∀ fact ∈ followsIn g.starts after (.rule name :: rest),
      Keyed.has fact.1 g.rules = true → fact ∈ g.follows g.starts) :
    Continues (factsAbout name (g.follows g.starts)) (others.text.toList ++ next) := by
  intro c first
  have begins := head?_mem_startsOf spelled others proper
  rw [mem_factsAbout]
  refine covered _ ?_ declared
  refine List.mem_append_left _ (List.mem_map.2 ⟨some c, mem_nextBefore.2 ?_, rfl⟩)
  rw [head?_append_eq] at first
  split at first
  · next empty =>
    rw [empty] at begins
    exact .inr ⟨begins, continues c first⟩
  · rw [first] at begins
    exact .inl ⟨rfl, begins⟩

/-- Forests of the same symbols are equal if their texts are, each with something after it that may
come there. -/
theorem Predictive.forest_eq (predictive : g.Predictive) (spelled : g.SpelledOut)
    {symbols : List Symbol} (f f' : Forest g symbols) (proper : Spelled symbols)
    {after : List (Option Char)}
    (covered : ∀ fact ∈ followsIn g.starts after symbols,
      Keyed.has fact.1 g.rules = true → fact ∈ g.follows g.starts)
    {next next' : List Char} (continues : Continues after next) (continues' : Continues after next')
    (same : f.text.toList ++ next = f'.text.toList ++ next') : f = f' := by
  induction f generalizing after next next' with
  | nil =>
    cases f'
    rfl
  | terminal text others ih =>
    cases f' with
    | terminal _ others' =>
      have tail : others = others' := by
        apply ih others' (fun h => proper (List.mem_cons_of_mem _ h)) covered continues continues'
        simpa using same
      rw [tail]
  | @rule name r found choice children rest others ihChildren ihOthers =>
    cases f' with
    | @rule _ r' found' choice' children' _ others' =>
      obtain rfl : r = r' := Option.some.inj (found.symm.trans found')
      have member := Keyed.mem_of_get? found
      have declared : Keyed.has name g.rules = true :=
        Keyed.has_iff.2 (Keyed.mem_names_of_mem member)
      have properRest : Spelled rest := fun h => proper (List.mem_cons_of_mem _ h)
      have properChoice : ∀ i : Fin r.alternatives.length, Spelled r.alternatives[i] :=
        fun i => spelled name r member _ (List.getElem_mem i.isLt)
      have behind := continues_others spelled declared others properRest continues covered
      have behind' := continues_others spelled declared others' properRest continues' covered
      simp only [Forest.text_rule, String.toList_append, List.append_assoc] at same
      have sameChoice : choice = choice' := by
        by_contra ne
        exact (predictive.told_apart found ne).append_ne
          (head?_mem_startsOf spelled children (properChoice choice))
          (head?_mem_startsOf spelled children' (properChoice choice')) behind behind' same
      subst sameChoice
      have sameChildren : children = children' := by
        apply ihChildren children' (properChoice choice) _ behind behind' same
        intro fact follows has
        exact follows_of_alternative found (List.getElem_mem choice.isLt) has follows
      subst sameChildren
      have sameOthers : others = others' := by
        apply ihOthers others' properRest _ continues continues' (List.append_cancel_left same)
        exact fun fact follows => covered fact (List.mem_append_right _ follows)
      rw [sameOthers]

/-- Different parse trees of a rule spell different texts. -/
theorem Predictive.parseTree_eq (predictive : g.Predictive) (spelled : g.SpelledOut)
    {name : String} {t u : ParseTree g name} (same : t.text = u.text) : t = u := by
  have nothingBehind : Continues [] [] := by simp [Continues]
  refine predictive.forest_eq spelled t u (by simp [Spelled]) ?_ nothingBehind nothingBehind ?_
  · simp [followsIn, nextBefore, startsOf]
  · rw [same]

/-- A text has at most one parse tree rooted at a rule of a grammar that was compiled, whether the
rule can be reached from a root or not. -/
theorem subsingleton_parseTrees_of_ofConstraints {constraints : List Constraint} {g : Grammar}
    (compiled : ofConstraints constraints = .ok (some g)) (name text : String) :
    Subsingleton { t : ParseTree g name // t.text = text } := by
  have accepted := accepted_of_ofConstraints compiled
  constructor
  rintro ⟨t, ht⟩ ⟨u, hu⟩
  have same : t.text = u.text := ht.trans hu.symm
  exact Subtype.ext (accepted.predictive.parseTree_eq accepted.spelledOut same)

/-- Nested lists, with a rule that can be empty and two that refer to each other. -/
def nestedLists : List Constraint :=
  [.ofProduction "value" .high "value"
      [[.terminal "[", .rule "items", .terminal "]"], [.terminal "x"]],
    .ofProduction "items" .high "items" [[], [.rule "value", .rule "items"]]]

theorem subsingleton_parseTrees_nestedLists :
    ∃ g, ofConstraints nestedLists = .ok (some g) ∧ g.Derives [.rule "value"] "[]" ∧
      Subsingleton { t : ParseTree g "value" // t.text = "[]" } := by
  have compiled : ofConstraints nestedLists = .ok (some _) := rfl
  refine ⟨_, compiled, ⟨?_, ?_⟩, subsingleton_parseTrees_of_ofConstraints compiled "value" "[]"⟩
  · refine .rule rfl ⟨0, by decide⟩ (.terminal "[" ?_) .nil
    exact .rule rfl ⟨0, by decide⟩ .nil (.terminal "]" .nil)
  · rfl

end Grammar

end GuidedDecoding
