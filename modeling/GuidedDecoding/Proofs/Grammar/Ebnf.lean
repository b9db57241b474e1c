import GuidedDecoding.Grammar.Ebnf
import GuidedDecoding.Proofs.Grammar.Merging
import GuidedDecoding.Proofs.Text.ReadOff

/-!
# The EBNF text of a grammar determines its rules

No terminal, whatever characters it is made of, is taken for anything else: between quotes a quote
stands behind a backslash. So symbols are told by their texts, then alternatives, then lines, and
two compiled grammars with one text have the same rules with the same alternatives
(`Grammar.ebnf_determines_rules`). The empty alternative is written as an empty terminal would be,
which a compiled grammar does not have.
-/

namespace GuidedDecoding

namespace Grammar

/-! ### Symbols -/

theorem readOff_escapedChar : ReadOff escapedChar (fun _ => True) fun _ => True := by
  intro c d r r' _ _ _ _ same
  by_cases hc : c = '\\' ∨ c = '"' <;> by_cases hd : d = '\\' ∨ d = '"' <;>
    simp only [escapedChar, hc, hd, if_true, if_false, List.cons_append, List.nil_append,
      List.cons.injEq, true_and] at same
  · exact same
  · exact absurd (.inl same.1.symm) hd
  · exact absurd (.inl same.1) hc
  · exact same

/-- No character of a terminal is taken for the closing quote. -/
theorem escapedChar_ne_quote {c : Char} {r r' : List Char} : escapedChar c ++ r ≠ '"' :: r' := by
  unfold escapedChar
  split
  · simp
  · next other =>
    intro same
    exact other (.inr (List.cons.inj same).1)

theorem readOff_escaped : ReadOff (List.flatMap escapedChar) (fun s => ∀ c ∈ s, True) fun text =>
    ∃ r, text = '"' :: r := by
  refine readOff_escapedChar.flatMap (fun _ _ _ => trivial) (fun _ _ => trivial) ?_
  rintro c r _ - ⟨r', rfl⟩
  exact escapedChar_ne_quote

/-- A symbol that is written in a way of its own: a terminal, or the name of a rule. -/
def Legible : Symbol → Prop
  | .terminal _ => True
  | .rule name => isRuleName name = true

/-- A text does not go on with the name of a rule. -/
def EndsName (text : List Char) : Prop := ∀ c ∈ text.head?, isNamePart c = false

theorem isNamePart_of_isNameStart {c : Char} (start : isNameStart c = true) :
    isNamePart c = true := by
  simp only [isNameStart, isNamePart, Char.isAlphanum, Bool.or_eq_true] at start ⊢
  tauto

/-- The name of a rule is made of letters, digits and a few marks, and there is a first one. -/
theorem name_of_isRuleName {name : String} (proper : isRuleName name = true) :
    (∃ c rest, name.toList = c :: rest ∧ isNameStart c = true) ∧
      ∀ c ∈ name.toList, isNamePart c = true := by
  unfold isRuleName at proper
  split at proper
  · cases proper
  · next c rest spelled =>
    obtain ⟨start, parts⟩ := Bool.and_eq_true_iff.1 proper
    rw [spelled]
    exact ⟨⟨c, rest, rfl, start⟩,
      List.forall_mem_cons.2 ⟨isNamePart_of_isNameStart start, List.all_eq_true.1 parts⟩⟩

/-- Names are told by what ends them. -/
theorem readOff_name : ReadOff String.toList (fun name => isRuleName name = true) EndsName := by
  intro a b r r' proper proper' ends ends' same
  obtain ⟨names, rest⟩ := run_append_inj (name_of_isRuleName proper).2
    (name_of_isRuleName proper').2 ends ends' same
  exact ⟨String.toList_inj.1 names, rest⟩

/-- A symbol starts with a quote or as the name of a rule does. -/
theorem head_symbolText {s : Symbol} (legible : Legible s) :
    ∃ c rest, symbolText s = c :: rest ∧ (c = '"' ∨ isNameStart c = true) := by
  cases s with
  | terminal text => exact ⟨'"', _, rfl, .inl rfl⟩
  | rule name =>
    obtain ⟨⟨c, rest, spelled, start⟩, -⟩ := name_of_isRuleName legible
    exact ⟨c, rest, spelled, .inr start⟩

theorem readOff_symbolText : ReadOff symbolText Legible EndsName := by
  have apart (text name : String) (r r' : List Char) (proper : isRuleName name = true) :
      symbolText (.terminal text) ++ r ≠ symbolText (.rule name) ++ r' := by
    obtain ⟨⟨c, rest, spelled, start⟩, -⟩ := name_of_isRuleName proper
    intro same
    rw [symbolText, symbolText, spelled] at same
    obtain rfl : '"' = c := (List.cons.inj same).1
    cases start
  rintro (text | name) (text' | name') r r' legible legible' ends ends' same
  · simp only [symbolText, List.cons_append, List.append_assoc, List.nil_append, List.cons.injEq,
      true_and] at same
    obtain ⟨texts, rest⟩ := readOff_escaped _ _ _ _ (fun _ _ => trivial) (fun _ _ => trivial)
      ⟨r, rfl⟩ ⟨r', rfl⟩ same
    exact ⟨congrArg _ (String.toList_inj.1 texts), (List.cons.inj rest).2⟩
  · exact absurd same (apart text name' r r' legible')
  · exact absurd same.symm (apart text' name r' r legible)
  · obtain ⟨rfl, rest⟩ := readOff_name name name' r r' legible legible' ends ends' same
    exact ⟨rfl, rest⟩

/-! ### Alternatives and lines -/

/-- The symbols that an alternative is written with. -/
def spelling (symbols : List Symbol) : List Symbol :=
  if symbols.isEmpty then [.terminal ""] else symbols

theorem alternativeText_eq (symbols : List Symbol) :
    alternativeText symbols = [' '].intercalate ((spelling symbols).map symbolText) := by
  unfold alternativeText spelling
  split <;> rfl

theorem spelling_inj {a b : List Symbol} (ha : ∀ s ∈ a, s.fault? = none)
    (hb : ∀ s ∈ b, s.fault? = none) (same : spelling a = spelling b) : a = b := by
  have apart (a : List Symbol) (proper : ∀ s ∈ a, s.fault? = none) : a ≠ [.terminal ""] := by
    rintro rfl
    exact absurd (proper _ List.mem_cons_self) (by decide)
  cases a with
  | nil =>
    cases b with
    | nil => rfl
    | cons s b => exact absurd same.symm (apart _ hb)
  | cons s a =>
    cases b with
    | nil => exact absurd same (apart _ ha)
    | cons t b => exact same

theorem legible_spelling {symbols : List Symbol} (proper : ∀ s ∈ symbols, s.fault? = none) :
    spelling symbols ≠ [] ∧ ∀ s ∈ spelling symbols, Legible s := by
  unfold spelling
  split
  · exact ⟨by simp, by simp [Legible]⟩
  · next some =>
    refine ⟨by simpa using some, fun s member => ?_⟩
    have sensible := proper s member
    cases s with
    | terminal text => trivial
    | rule name =>
      show isRuleName name = true
      simpa [Symbol.fault?] using sensible

/-- A text goes on behind an alternative. -/
def EndsAlternative (text : List Char) : Prop :=
  ∃ c rest, text = ' ' :: c :: rest ∧ (c = '|' ∨ c = ';')

theorem readOff_alternativeText :
    ReadOff alternativeText (fun symbols => ∀ s ∈ symbols, s.fault? = none) EndsAlternative := by
  have spelled : ReadOff (fun symbols => [' '].intercalate (symbols.map symbolText))
      (fun symbols => symbols ≠ [] ∧ ∀ s ∈ symbols, Legible s) EndsAlternative := by
    refine readOff_symbolText.intercalate ?_ ?_ ?_
    · rintro r _ ⟨⟩
      rfl
    · rintro _ ⟨c, rest, rfl, -⟩ _ ⟨⟩
      rfl
    · rintro s r _ legible ⟨c, rest, rfl, mark⟩ same
      obtain ⟨d, others, starts, first⟩ := head_symbolText legible
      rw [starts] at same
      obtain rfl : d = c := (List.cons.inj (List.cons.inj same).2).1
      obtain rfl | rfl := mark <;> exact absurd first (by decide)
  intro a b r r' proper proper' ends ends' same
  rw [alternativeText_eq, alternativeText_eq] at same
  obtain ⟨spellings, rest⟩ := spelled _ _ _ _ (legible_spelling proper) (legible_spelling proper')
    ends ends' same
  exact ⟨spelling_inj proper proper' spellings, rest⟩

/-- What a line says of a rule: its name and its alternatives. -/
def content (r : String × GrammarRule) : String × List (List Symbol) := (r.1, r.2.alternatives)

/-- The line of a rule, of which it says the name and the alternatives. -/
def lineText (line : String × List (List Symbol)) : List Char :=
  line.1.toList ++ ([' ', ':', ':', '=', ' ']
    ++ ([' ', '|', ' '].intercalate (line.2.map alternativeText) ++ [' ', ';', '\n']))

theorem ruleText_eq (r : String × GrammarRule) : ruleText r.1 r.2 = lineText (content r) := by
  simp [ruleText, lineText, content]

/-- A line that a compiled grammar can have. -/
structure IsLine (line : String × List (List Symbol)) : Prop where
  name : isRuleName line.1 = true
  some : line.2 ≠ []
  proper : ∀ symbols ∈ line.2, ∀ s ∈ symbols, s.fault? = none

theorem readOff_lineText : ReadOff lineText IsLine fun _ => True := by
  have bodies : ReadOff (fun l => [' ', '|', ' '].intercalate (l.map alternativeText))
      (fun l => l ≠ [] ∧ ∀ symbols ∈ l, ∀ s ∈ symbols, s.fault? = none)
      fun text => ∃ rest, text = ' ' :: ';' :: '\n' :: rest := by
    refine readOff_alternativeText.intercalate ?_ ?_ ?_
    · exact fun r => ⟨'|', ' ' :: r, rfl, .inl rfl⟩
    · rintro _ ⟨rest, rfl⟩
      exact ⟨';', _, rfl, .inr rfl⟩
    · rintro symbols r _ - ⟨rest, rfl⟩ same
      cases (List.cons.inj (List.cons.inj same).2).1
  rintro ⟨name, alternatives⟩ ⟨name', alternatives'⟩ r r' line line' - - same
  simp only [lineText, List.append_assoc] at same
  have ends (text : List Char) : EndsName ([' ', ':', ':', '=', ' '] ++ text) := by
    rintro _ ⟨⟩
    rfl
  obtain ⟨rfl, behind⟩ := readOff_name name name' _ _ line.name line'.name (ends _) (ends _) same
  obtain ⟨rfl, others⟩ := bodies alternatives alternatives' _ _ ⟨line.some, line.proper⟩
    ⟨line'.some, line'.proper⟩ ⟨r, rfl⟩ ⟨r', rfl⟩ (List.append_cancel_left behind)
  exact ⟨rfl, by simpa using others⟩

/-- Lines one after another can be told from each other. -/
theorem lines_inj {lines lines' : List (String × List (List Symbol))}
    (proper : ∀ line ∈ lines, IsLine line) (proper' : ∀ line ∈ lines', IsLine line)
    (same : lines.flatMap lineText = lines'.flatMap lineText) : lines = lines' := by
  have texts : ReadOff (List.flatMap lineText) (fun lines => ∀ line ∈ lines, IsLine line)
      fun text => text = [] := by
    refine readOff_lineText.flatMap (fun _ _ _ => trivial) (fun _ _ => trivial) ?_
    rintro line r _ _ rfl same
    simp [lineText] at same
  exact (texts lines lines' [] [] proper proper' rfl rfl (by simpa using same)).1

/-! ### Grammars -/

theorem productionFault?_eq_none_iff {rule : String} {alternatives : List (List Symbol)} :
    productionFault? rule alternatives = none ↔ IsLine (rule, alternatives) := by
  have spelled : alternatives.flatten.findSome? Symbol.fault? = none ↔
      ∀ symbols ∈ alternatives, ∀ s ∈ symbols, s.fault? = none := by
    simp only [List.findSome?_eq_none_iff, List.mem_flatten]
    exact ⟨fun h symbols listed s inside => h s ⟨symbols, listed, inside⟩,
      fun h s ⟨symbols, listed, inside⟩ => h symbols listed s inside⟩
  unfold productionFault?
  split
  · next other => exact ⟨nofun, fun line => absurd line.name (by simpa using other)⟩
  · next name =>
    split
    · next empty =>
      exact ⟨nofun, fun line => absurd (List.isEmpty_iff.1 empty) line.some⟩
    · next some =>
      rw [spelled]
      exact ⟨fun proper => ⟨by simpa using name, by simpa using some, proper⟩, IsLine.proper⟩

/-- Every rule of a compiled grammar can have a line. -/
theorem isLine_of_ofConstraints {l : List Constraint} {g : Grammar}
    (compiled : ofConstraints l = .ok (some g)) : ∀ r ∈ g.rules, IsLine (content r) := by
  obtain ⟨-, compiled⟩ := ofConstraints_eq_ok_some_iff.1 compiled
  obtain ⟨m, merged, -, rfl⟩ := ofProductions_eq_ok_iff.1 compiled
  generalize l.filter _ = l at merged
  have unites := MergedRules.unites_of_ofConstraints merged
  have proper := (MergedRules.exists_ofConstraints_iff.1 ⟨m, merged⟩).proper
  -- a production that declares or lists anything makes sense by itself
  have sensible (c : Constraint) (member : c ∈ l) (rule : String)
      (alternatives : List (List Symbol)) (field : Option String)
      (payload : c.payload = .production rule alternatives field) :
      IsLine (rule, alternatives) := by
    obtain ⟨_, _, _, payload', fault⟩ := proper c member
    cases payload.symm.trans payload'
    exact productionFault?_eq_none_iff.1 fault
  rintro ⟨name, r⟩ filed
  have found : m.toGrammar.rule? name = some r := Keyed.get?_of_mem m.toGrammar.sorted filed
  obtain ⟨c, member, alternatives, field, payload⟩ :=
    (unites.declared name).1 (Keyed.mem_names_of_mem filed)
  have line := sensible c member name alternatives field payload
  obtain ⟨first, listed⟩ := List.exists_mem_of_ne_nil _ line.some
  refine ⟨line.name, ?_, fun symbols listed => ?_⟩
  · exact List.ne_nil_of_mem ((unites.alternatives name r found first).2
      ⟨c, member, alternatives, field, payload, listed⟩)
  · obtain ⟨c, member, alternatives, field, payload, listed⟩ :=
      (unites.alternatives name r found symbols).1 listed
    exact (sensible c member name alternatives field payload).proper symbols listed

theorem rootsFirst_perm (g : Grammar) : g.rootsFirst.Perm g.rules := by
  have perm := List.filter_append_perm (fun r => !g.isReferenced r.1) g.rules
  simpa [rootsFirst] using perm

theorem ebnf_eq (g : Grammar) :
    g.ebnf = String.ofList ((g.rootsFirst.map content).flatMap lineText) := by
  rw [ebnf, List.flatMap_map]
  simp only [ruleText_eq]

/-- Roots are the rules that no other rule refers to. -/
theorem mem_roots_iff {g : Grammar} {name : String} : name ∈ g.roots ↔
    name ∈ Keyed.names g.rules ∧
      ∀ r ∈ g.rules, r.1 ≠ name → .rule name ∉ r.2.alternatives.flatten := by
  have refers (r : GrammarRule) : name ∈ r.references ↔ .rule name ∈ r.alternatives.flatten := by
    rw [GrammarRule.references, GrammarRule.symbols, List.mem_filterMap]
    constructor
    · rintro ⟨text | other, inside, ⟨⟩⟩
      exact inside
    · exact fun inside => ⟨_, inside, rfl⟩
  simp [roots, isReferenced, Keyed.names, refers, List.mem_filter]

theorem get?_map_content {name : String} {rules : List (String × GrammarRule)} :
    Keyed.get? name (rules.map content) = (Keyed.get? name rules).map (·.alternatives) := by
  induction rules with
  | nil => rfl
  | cons r rules ih =>
    rw [List.map_cons, content, Keyed.get?_cons, ih, Keyed.get?_cons]
    split <;> rfl

theorem ebnf_inj {l l' : List Constraint} {g h : Grammar}
    (compiled : ofConstraints l = .ok (some g)) (compiled' : ofConstraints l' = .ok (some h))
    (same : g.ebnf = h.ebnf) : g.rules.map content = h.rules.map content := by
  have lines {l : List Constraint} {g : Grammar} (compiled : ofConstraints l = .ok (some g)) :
      ∀ line ∈ g.rootsFirst.map content, IsLine line := by
    simp only [List.forall_mem_map, g.rootsFirst_perm.mem_iff]
    exact isLine_of_ofConstraints compiled
  rw [ebnf_eq, ebnf_eq] at same
  have ordered := lines_inj (lines compiled) (lines compiled') (String.ofList_injective same)
  have perm : (g.rules.map content).Perm (h.rules.map content) :=
    (g.rootsFirst_perm.symm.map content).trans (ordered ▸ h.rootsFirst_perm.map content)
  have sorted (g : Grammar) : Keyed.Sorted (g.rules.map content) := by
    simpa [Keyed.Sorted, Keyed.names, content, Function.comp_def] using g.sorted
  exact Keyed.eq_of_perm (sorted g) (sorted h) perm

/-- Two compiled grammars with one text have the same rules with the same alternatives in the same
order. Every grammar has each of its rules in its text once, the roots before all others. -/
theorem ebnf_determines_rules :
    (∀ (l l' : List Constraint) (g h : Grammar), ofConstraints l = .ok (some g) →
      ofConstraints l' = .ok (some h) → g.ebnf = h.ebnf →
        Keyed.names g.rules = Keyed.names h.rules ∧
        ∀ name, (g.rule? name).map (·.alternatives) = (h.rule? name).map (·.alternatives)) ∧
    ∀ g : Grammar, (∃ roots others,
        g.ebnf = String.ofList ((roots ++ others).flatMap fun r => ruleText r.1 r.2) ∧
        (roots ++ others).Perm g.rules ∧ Keyed.names roots = g.roots ∧
        ∀ r ∈ others, r.1 ∉ g.roots) ∧
      ∀ name, name ∈ g.roots ↔ name ∈ Keyed.names g.rules ∧
        ∀ r ∈ g.rules, r.1 ≠ name → .rule name ∉ r.2.alternatives.flatten := by
  constructor
  · intro l l' g h compiled compiled' same
    have contents := ebnf_inj compiled compiled' same
    constructor
    · have names := congrArg Keyed.names contents
      simpa [Keyed.names, content, Function.comp_def] using names
    · intro name
      have lookUps := congrArg (Keyed.get? name) contents
      rwa [get?_map_content, get?_map_content] at lookUps
  · intro g
    refine ⟨⟨_, _, rfl, g.rootsFirst_perm, ?_, ?_⟩, fun _ => mem_roots_iff⟩
    · simp [Keyed.names, roots, List.filter_map, Function.comp_def]
    · intro r other root
      have referenced := (List.mem_filter.1 other).2
      have free := (List.mem_filter.1 root).2
      simp [referenced] at free

/-- A rule with a terminal that looks like the end of its line and another line, and an empty
alternative. -/
def awkward (id : String) : List Constraint :=
  [.ofProduction id .high "a" [[.terminal "\" | \\ ;\nb ::= ", .rule "b"], []],
    .ofProduction "b" .high "b" [[.terminal ";"], [.terminal "|", .rule "b"]]]

theorem ebnf_determines_rules_awkward : ∃ g h, ofConstraints (awkward "one") = .ok (some g) ∧
    ofConstraints (awkward "other") = .ok (some h) ∧ g ≠ h ∧ g.ebnf = h.ebnf ∧
    Keyed.names g.rules = Keyed.names h.rules ∧
    ∀ name, (g.rule? name).map (·.alternatives) = (h.rule? name).map (·.alternatives) := by
  obtain ⟨g, h, compiled, compiled', other, same⟩ : ∃ g h,
      ofConstraints (awkward "one") = .ok (some g) ∧
      ofConstraints (awkward "other") = .ok (some h) ∧ g ≠ h ∧ g.ebnf = h.ebnf :=
    ⟨_, _, rfl, rfl, by decide, rfl⟩
  exact ⟨g, h, compiled, compiled', other, same,
    ebnf_determines_rules.1 _ _ g h compiled compiled' same⟩

end Grammar

end GuidedDecoding
