import GuidedDecoding.Grammar.Language
import GuidedDecoding.Proofs.Grammar.Nesting
import GuidedDecoding.Proofs.NameSet

/-!
# Listed languages are the derived ones

When the expansion of a rule ends with a list, the list holds exactly what the rule derives, and not
more than the limit. In an accepted grammar it ends without a list only if the rule derives more
texts than the limit. Whatever part of the expansion has given up stands between two texts in texts
of the whole rule, so the whole rule derives at least as many. The part has either listed too many
texts, or come back to a rule that is being expanded, which then derives infinitely many.
-/

namespace GuidedDecoding

/-- Putting texts between two others does not make them fewer. -/
theorem encard_le_of_between {texts wholes : Set String} (before after : String)
    (inside : ∀ x ∈ texts, before ++ x ++ after ∈ wholes) : texts.encard ≤ wholes.encard := by
  refine Set.encard_le_encard_of_injOn (f := fun x => before ++ x ++ after) inside ?_
  intro x _ y _ same
  exact (String.append_right_inj before).1 ((String.append_left_inj after).1 same)

namespace NameSet

variable {limit : Nat}

theorem mem_followedBy {heads tails : NameSet} {text : String} :
    text ∈ heads.followedBy tails ↔ ∃ head ∈ heads, ∃ tail ∈ tails, head ++ tail = text := by
  simp [followedBy, mem_def]

theorem mem_insertWithin {added : List String} {s grown : NameSet}
    (h : insertWithin limit added s = some grown) {x : String} :
    x ∈ grown ↔ x ∈ s ∨ x ∈ added := by
  induction added generalizing s with
  | nil =>
    cases h
    simp
  | cons y rest ih =>
    simp only [insertWithin] at h
    split at h
    · rw [ih h, mem_insert, List.mem_cons]
      tauto
    · exact absurd h (by simp)

/-- A set outgrows the limit by members that were to be added. -/
theorem exists_of_insertWithin_eq_none {added : List String} {s : NameSet}
    (h : insertWithin limit added s = none) :
    ∃ large : NameSet, limit < large.toList.length ∧ ∀ x ∈ large, x ∈ s ∨ x ∈ added := by
  induction added generalizing s with
  | nil => exact absurd h (by simp [insertWithin])
  | cons y rest ih =>
    simp only [insertWithin] at h
    split at h
    · obtain ⟨large, size, origin⟩ := ih h
      refine ⟨large, size, fun x member => ?_⟩
      have := origin x member
      rw [mem_insert] at this
      rw [List.mem_cons]
      tauto
    · next size =>
      refine ⟨s.insert y, Nat.lt_of_not_le size, fun x member => ?_⟩
      rw [mem_insert] at member
      rw [List.mem_cons]
      tauto

end NameSet

namespace Grammar

variable {g : Grammar} {limit : Nat} {languageOf : String → Option NameSet}

/-- Every list that is given for a rule holds exactly what the rule derives. -/
def Lists (g : Grammar) (languageOf : String → Option NameSet) : Prop :=
  ∀ name l, languageOf name = some l → ∀ text, text ∈ l ↔ g.Derives [.rule name] text

/-- What one symbol derives, given lists for the rules. -/
def piecesOf (languageOf : String → Option NameSet) : Symbol → Option NameSet
  | .terminal text => some (.singleton text)
  | .rule name => languageOf name

theorem sequenceLanguage_cons {s : Symbol} {rest : List Symbol} {derived : NameSet} :
    sequenceLanguage limit languageOf (s :: rest) derived =
      (piecesOf languageOf s).bind fun pieces =>
        (NameSet.insertWithin limit (derived.followedBy pieces) ∅).bind
          (sequenceLanguage limit languageOf rest) := by
  cases s <;> rfl

theorem Lists.mem_piecesOf (lists : g.Lists languageOf) {s : Symbol} {pieces : NameSet}
    (h : piecesOf languageOf s = some pieces) {text : String} :
    text ∈ pieces ↔ g.Derives [s] text := by
  cases s with
  | terminal piece =>
    cases h
    rw [NameSet.mem_singleton, derives_terminal]
  | rule name => exact lists name pieces h text

/-- The texts that go on with some symbols after one of those derived before. -/
def textsAfter (g : Grammar) (derived : NameSet) (symbols : List Symbol) : Set String :=
  {text | ∃ head ∈ derived, ∃ tail, g.Derives symbols tail ∧ head ++ tail = text}

/-- It is the same to go on with all symbols, or with the others after the first was added. -/
theorem Lists.textsAfter_cons (lists : g.Lists languageOf) {s : Symbol} {rest : List Symbol}
    {derived pieces grown : NameSet} (first : piecesOf languageOf s = some pieces)
    (added : NameSet.insertWithin limit (derived.followedBy pieces) ∅ = some grown) :
    g.textsAfter derived (s :: rest) = g.textsAfter grown rest := by
  symm
  ext text
  constructor
  · rintro ⟨head, member, others, derives, rfl⟩
    rw [NameSet.mem_insertWithin added, NameSet.mem_followedBy] at member
    rcases member with none_yet | ⟨start, inDerived, piece, inPieces, rfl⟩
    · exact absurd none_yet NameSet.not_mem_empty
    · refine ⟨start, inDerived, piece ++ others, ?_, by rw [String.append_assoc]⟩
      exact derives_cons.2 ⟨piece, others, (lists.mem_piecesOf first).1 inPieces, derives, rfl⟩
  · rintro ⟨head, member, tail, derives, rfl⟩
    obtain ⟨piece, others, fromFirst, fromRest, rfl⟩ := derives_cons.1 derives
    refine ⟨head ++ piece, ?_, others, fromRest, by rw [String.append_assoc]⟩
    rw [NameSet.mem_insertWithin added, NameSet.mem_followedBy]
    exact .inr ⟨head, member, piece, (lists.mem_piecesOf first).2 fromFirst, rfl⟩

theorem Lists.mem_sequenceLanguage (lists : g.Lists languageOf) {symbols : List Symbol}
    {derived l : NameSet} (h : sequenceLanguage limit languageOf symbols derived = some l)
    {text : String} : text ∈ l ↔ text ∈ g.textsAfter derived symbols := by
  induction symbols generalizing derived with
  | nil =>
    cases h
    simp [textsAfter]
  | cons s rest ih =>
    rw [sequenceLanguage_cons, Option.bind_eq_some_iff] at h
    obtain ⟨pieces, first, h⟩ := h
    obtain ⟨grown, added, h⟩ := Option.bind_eq_some_iff.1 h
    rw [ih h, lists.textsAfter_cons first added]

/-- After the empty text alone come the texts of the symbols themselves. -/
theorem textsAfter_singleton_empty {symbols : List Symbol} :
    g.textsAfter (.singleton "") symbols = g.language symbols := by
  ext text
  simp [textsAfter]

theorem choiceLanguage_cons {symbols : List Symbol} {rest : List (List Symbol)}
    {derived : NameSet} :
    choiceLanguage limit languageOf (symbols :: rest) derived =
      (sequenceLanguage limit languageOf symbols (.singleton "")).bind fun strings =>
        if (derived.union strings).toList.length ≤ limit then
          choiceLanguage limit languageOf rest (derived.union strings)
        else none := rfl

theorem Lists.mem_choiceLanguage (lists : g.Lists languageOf) {alternatives : List (List Symbol)}
    {derived l : NameSet} (h : choiceLanguage limit languageOf alternatives derived = some l)
    {text : String} :
    text ∈ l ↔ text ∈ derived ∨ ∃ symbols ∈ alternatives, g.Derives symbols text := by
  induction alternatives generalizing derived with
  | nil =>
    cases h
    simp
  | cons symbols rest ih =>
    rw [choiceLanguage_cons, Option.bind_eq_some_iff] at h
    obtain ⟨strings, first, h⟩ := h
    split at h
    · rw [ih h, NameSet.mem_union, lists.mem_sequenceLanguage first, textsAfter_singleton_empty]
      simp [or_assoc]
    · exact absurd h (by simp)

theorem length_choiceLanguage_le {alternatives : List (List Symbol)} {derived l : NameSet}
    (h : choiceLanguage limit languageOf alternatives derived = some l)
    (small : derived.toList.length ≤ limit) : l.toList.length ≤ limit := by
  induction alternatives generalizing derived with
  | nil =>
    cases h
    exact small
  | cons symbols rest ih =>
    rw [choiceLanguage_cons, Option.bind_eq_some_iff] at h
    obtain ⟨strings, first, h⟩ := h
    split at h
    · next fits => exact ih h fits
    · exact absurd h (by simp)

/-- The lists that expansions end with are exact, for whatever grammar. -/
theorem lists_expand (g : Grammar) (limit depth : Nat) (expanding : List String) :
    g.Lists (g.expand limit depth expanding) := by
  induction depth generalizing expanding with
  | zero =>
    intro name l h
    exact absurd h (by simp [expand])
  | succ depth ih =>
    intro name l h text
    rw [expand] at h
    split at h
    · exact absurd h (by simp)
    · obtain ⟨r, found, h⟩ := Option.bind_eq_some_iff.1 h
      rw [(ih (name :: expanding)).mem_choiceLanguage h, derives_rule]
      simp [found]

theorem mem_of_finiteLanguage_eq_some {name : String} {l : NameSet}
    (h : g.finiteLanguage name limit = some l) {text : String} :
    text ∈ l ↔ text ∈ g.language [.rule name] :=
  lists_expand g limit _ [] name l h text

theorem length_finiteLanguage_le {name : String} {l : NameSet}
    (h : g.finiteLanguage name limit = some l) : l.toList.length ≤ limit := by
  rw [finiteLanguage, expand] at h
  split at h
  · exact absurd h (by simp)
  · obtain ⟨r, found, h⟩ := Option.bind_eq_some_iff.1 h
    exact length_choiceLanguage_le h (Nat.zero_le _)

/-! ### Giving up -/

/-- What is listed so far can go on with symbols that derive something. -/
theorem textsAfter_nonempty {derived : NameSet} {symbols : List Symbol}
    (inhabited : ∃ head, head ∈ derived) (derivable : ∃ text, g.Derives symbols text) :
    (g.textsAfter derived symbols).Nonempty := by
  obtain ⟨head, member⟩ := inhabited
  obtain ⟨tail, derives⟩ := derivable
  exact ⟨head ++ tail, head, member, tail, derives, rfl⟩

/-- What the first symbol derives stands in as many texts. -/
theorem encard_language_le_textsAfter {s : Symbol} {rest : List Symbol} {derived : NameSet}
    (inhabited : ∃ head, head ∈ derived) (derivable : ∃ text, g.Derives rest text) :
    (g.language [s]).encard ≤ (g.textsAfter derived (s :: rest)).encard := by
  obtain ⟨head, member⟩ := inhabited
  obtain ⟨others, derives⟩ := derivable
  refine encard_le_of_between head others fun piece derivesFirst => ?_
  refine ⟨head, member, piece ++ others, ?_, by rw [String.append_assoc]⟩
  exact derives_cons.2 ⟨piece, others, derivesFirst, derives, rfl⟩

/-- Texts up to some symbol, as long as they can go on, stand in as many texts. -/
theorem Lists.lt_encard_textsAfter (lists : g.Lists languageOf) {s : Symbol} {rest : List Symbol}
    {derived pieces : NameSet} (first : piecesOf languageOf s = some pieces)
    (full : NameSet.insertWithin limit (derived.followedBy pieces) ∅ = none)
    (derivable : ∃ text, g.Derives rest text) :
    (limit : ℕ∞) < (g.textsAfter derived (s :: rest)).encard := by
  obtain ⟨large, size, origin⟩ := NameSet.exists_of_insertWithin_eq_none full
  obtain ⟨others, derives⟩ := derivable
  refine (NameSet.lt_encard_members size).trans_le
    (encard_le_of_between "" others fun text member => ?_)
  rcases origin text member with none_yet | listed
  · exact absurd none_yet NameSet.not_mem_empty
  · obtain ⟨head, inDerived, piece, inPieces, rfl⟩ := NameSet.mem_followedBy.1 listed
    refine ⟨head, inDerived, piece ++ others, ?_, by simp [String.append_assoc]⟩
    exact derives_cons.2 ⟨piece, others, (lists.mem_piecesOf first).1 inPieces, derives, rfl⟩

/-- If listing texts gives up, then there are more than the limit, as long as every list that is
missing would have been too long itself. -/
theorem Lists.lt_encard_of_sequenceLanguage_eq_none (lists : g.Lists languageOf)
    {symbols : List Symbol} {derived : NameSet}
    (h : sequenceLanguage limit languageOf symbols derived = none)
    (missing : ∀ name, .rule name ∈ symbols → languageOf name = none →
      (limit : ℕ∞) < (g.language [.rule name]).encard)
    (derivable : ∀ name, .rule name ∈ symbols → ∃ text, g.Derives [.rule name] text)
    (inhabited : ∃ head, head ∈ derived) :
    (limit : ℕ∞) < (g.textsAfter derived symbols).encard := by
  induction symbols generalizing derived with
  | nil => exact absurd h (by simp [sequenceLanguage])
  | cons s rest ih =>
    have derivableRest : ∀ name, .rule name ∈ rest → ∃ text, g.Derives [.rule name] text :=
      fun name inside => derivable name (List.mem_cons_of_mem _ inside)
    rw [sequenceLanguage_cons] at h
    cases first : piecesOf languageOf s with
    | none =>
      have large : (limit : ℕ∞) < (g.language [s]).encard := by
        cases s with
        | terminal text => exact absurd first (by simp [piecesOf])
        | rule name => exact missing name List.mem_cons_self first
      exact large.trans_le
        (encard_language_le_textsAfter inhabited (exists_derives derivableRest))
    | some pieces =>
      rw [first, Option.bind_some] at h
      cases added : NameSet.insertWithin limit (derived.followedBy pieces) ∅ with
      | none => exact lists.lt_encard_textsAfter first added (exists_derives derivableRest)
      | some grown =>
        rw [added, Option.bind_some] at h
        -- Something is listed still, since all symbols derive something.
        have nonempty := textsAfter_nonempty inhabited (exists_derives derivable)
        rw [lists.textsAfter_cons first added] at nonempty ⊢
        obtain ⟨_, head, member, -⟩ := nonempty
        exact ih h (fun name inside => missing name (List.mem_cons_of_mem _ inside)) derivableRest
          ⟨head, member⟩

theorem Lists.lt_encard_of_choiceLanguage_eq_none (lists : g.Lists languageOf)
    {alternatives : List (List Symbol)} {derived : NameSet}
    (h : choiceLanguage limit languageOf alternatives derived = none)
    (missing : ∀ symbols ∈ alternatives, ∀ name, .rule name ∈ symbols → languageOf name = none →
      (limit : ℕ∞) < (g.language [.rule name]).encard)
    (derivable : ∀ symbols ∈ alternatives, ∀ name, .rule name ∈ symbols →
      ∃ text, g.Derives [.rule name] text) :
    (limit : ℕ∞) <
      {text | text ∈ derived ∨ ∃ symbols ∈ alternatives, g.Derives symbols text}.encard := by
  induction alternatives generalizing derived with
  | nil => exact absurd h (by simp [choiceLanguage])
  | cons symbols rest ih =>
    rw [choiceLanguage_cons] at h
    cases first : sequenceLanguage limit languageOf symbols (.singleton "") with
    | none =>
      have large := lists.lt_encard_of_sequenceLanguage_eq_none first
        (missing symbols List.mem_cons_self) (derivable symbols List.mem_cons_self) ⟨"", by simp⟩
      rw [textsAfter_singleton_empty] at large
      refine large.trans_le (Set.encard_le_encard ?_)
      exact fun text derives => .inr ⟨symbols, List.mem_cons_self, derives⟩
    | some strings =>
      rw [first, Option.bind_some] at h
      have derivedSoFar : ∀ text ∈ derived.union strings,
          text ∈ derived ∨ ∃ a ∈ symbols :: rest, g.Derives a text := by
        intro text member
        rw [NameSet.mem_union, lists.mem_sequenceLanguage first, textsAfter_singleton_empty]
          at member
        rcases member with old | new
        · exact .inl old
        · exact .inr ⟨symbols, List.mem_cons_self, new⟩
      split at h
      · have large := ih h (fun a inside => missing a (List.mem_cons_of_mem _ inside))
          (fun a inside => derivable a (List.mem_cons_of_mem _ inside))
        refine large.trans_le (Set.encard_le_encard ?_)
        rintro text (earlier | ⟨a, inside, derives⟩)
        · exact derivedSoFar text earlier
        · exact .inr ⟨a, List.mem_cons_of_mem _ inside, derives⟩
      · next size =>
        exact (NameSet.lt_encard_members (Nat.lt_of_not_le size)).trans_le
          (Set.encard_le_encard derivedSoFar)

namespace Accepted

/-- An expansion that gives up was one of a rule with more texts than the limit. The rules that are
being expanded are different ones, all of them enclose the rule, and there are still as many steps
left as rules that are not among them. -/
theorem lt_encard_of_expand_eq_none (accepted : g.Accepted) {depth : Nat} {expanding : List String}
    {name : String} (h : g.expand limit depth expanding name = none)
    (declared : name ∈ Keyed.names g.rules) (distinct : expanding.Nodup)
    (known : expanding ⊆ Keyed.names g.rules) (outer : ∀ e ∈ expanding, g.Encloses e name)
    (enough : g.rules.length < depth + expanding.length) :
    (limit : ℕ∞) < (g.language [.rule name]).encard := by
  induction depth generalizing expanding name with
  | zero =>
    have fits := (List.subperm_of_subset distinct known).length_le
    rw [Keyed.names, List.length_map] at fits
    omega
  | succ depth ih =>
    rw [expand] at h
    split at h
    · next again =>
      rw [List.contains_iff_mem] at again
      have infinite := accepted.infinite_language declared (outer name again)
      rw [infinite.encard_eq]
      exact ENat.natCast_lt_top limit
    · next fresh =>
      rw [List.contains_iff_mem] at fresh
      obtain ⟨⟨_, r⟩, member, rfl⟩ := List.mem_map.1 declared
      have found := Keyed.get?_of_mem g.sorted member
      have inRules : ∀ symbols ∈ r.alternatives, ∀ inner, .rule inner ∈ symbols →
          inner ∈ Keyed.names g.rules :=
        fun symbols listed inner => accepted.defined _ r member symbols listed inner
      change ((g.rule? _).bind _) = none at h
      rw [rule?, found, Option.bind_some] at h
      have large := (lists_expand g limit depth _).lt_encard_of_choiceLanguage_eq_none h ?_
        fun symbols listed inner inside => accepted.productive inner (inRules _ listed _ inside)
      · refine large.trans_le (Set.encard_le_encard ?_)
        rintro text (none_yet | derives)
        · exact absurd none_yet NameSet.not_mem_empty
        · exact derives_rule.2 ⟨r, found, derives⟩
      · intro symbols listed inner inside gaveUp
        have encloses := accepted.encloses found listed inside
        refine ih gaveUp (inRules symbols listed inner inside) ?_ ?_ ?_ ?_
        · exact List.nodup_cons.2 ⟨fresh, distinct⟩
        · exact List.cons_subset.2 ⟨declared, known⟩
        · intro e member
          rcases List.mem_cons.1 member with rfl | earlier
          · exact encloses
          · exact (outer e earlier).trans encloses
        · rw [List.length_cons]
          omega

/-- The language of a rule is listed exactly when it has no more texts than the limit. -/
theorem finiteLanguage_isSome_iff (accepted : g.Accepted) {name : String}
    (declared : name ∈ Keyed.names g.rules) :
    (g.finiteLanguage name limit).isSome ↔ (g.language [.rule name]).encard ≤ limit := by
  cases h : g.finiteLanguage name limit with
  | none =>
    have large := accepted.lt_encard_of_expand_eq_none h declared List.nodup_nil
      (List.nil_subset _) (by simp) (by simp)
    simpa using large
  | some l =>
    have same : g.language [.rule name] = {text | text ∈ l} := by
      ext text
      exact (mem_of_finiteLanguage_eq_some h).symm
    rw [same, NameSet.encard_members]
    simpa using length_finiteLanguage_le h

/-- What is said of all texts in a list is said of all texts of a language within the limit. -/
theorem forall_finiteLanguage_iff (accepted : g.Accepted) {name : String}
    (declared : name ∈ Keyed.names g.rules) (p : String → Prop) :
    (∀ l, g.finiteLanguage name limit = some l → ∀ text ∈ l, p text) ↔
      ((g.language [.rule name]).encard ≤ limit → ∀ text ∈ g.language [.rule name], p text) := by
  rw [← accepted.finiteLanguage_isSome_iff declared]
  constructor
  · intro all some_list text derives
    obtain ⟨l, h⟩ := Option.isSome_iff_exists.1 some_list
    exact all l h text ((mem_of_finiteLanguage_eq_some h).2 derives)
  · intro all l h text member
    exact all (by simp [h]) text ((mem_of_finiteLanguage_eq_some h).1 member)

end Accepted

end Grammar

end GuidedDecoding
