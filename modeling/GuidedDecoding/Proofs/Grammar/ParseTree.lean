import GuidedDecoding.Grammar.Basic

/-!
# Parse trees

A forest parses a sequence of symbols, and its text is what the terminals at its leaves spell, read
from left to right; its size is how many rules were applied. A rule is parsed by one of its listed
alternatives. Which one is told by its place in the list, so that an alternative listed twice would
make two trees.
-/

namespace GuidedDecoding

/-- Parse trees for the symbols of a sequence, side by side. -/
inductive Forest (g : Grammar) : List Symbol → Type where
  | nil : Forest g []
  | terminal (text : String) {rest : List Symbol} (others : Forest g rest) :
      Forest g (.terminal text :: rest)
  | rule {name : String} {r : GrammarRule} (found : g.rule? name = some r)
      (choice : Fin r.alternatives.length) (children : Forest g r.alternatives[choice])
      {rest : List Symbol} (others : Forest g rest) : Forest g (.rule name :: rest)

/-- The parse trees of a rule. -/
abbrev ParseTree (g : Grammar) (name : String) := Forest g [.rule name]

/-- The text that the leaves spell. -/
def Forest.text {g : Grammar} : {symbols : List Symbol} → Forest g symbols → String
  | _, .nil => ""
  | _, .terminal text others => text ++ others.text
  | _, .rule _ _ children others => children.text ++ others.text

namespace Forest

variable {g : Grammar}

@[simp] theorem text_nil : (nil : Forest g []).text = "" := rfl

@[simp] theorem text_terminal (text : String) {rest : List Symbol} (others : Forest g rest) :
    (terminal text others).text = text ++ others.text := rfl

@[simp] theorem text_rule {name : String} {r : GrammarRule} (found : g.rule? name = some r)
    (choice : Fin r.alternatives.length) (children : Forest g r.alternatives[choice])
    {rest : List Symbol} (others : Forest g rest) :
    (rule found choice children others).text = children.text ++ others.text := rfl

/-- The number of rules that are applied. -/
def size : {symbols : List Symbol} → Forest g symbols → Nat
  | _, .nil => 0
  | _, .terminal _ others => others.size
  | _, .rule _ _ children others => children.size + others.size + 1

/-- Two forests side by side. -/
def append {after : List Symbol} :
    {symbols : List Symbol} → Forest g symbols → Forest g after → Forest g (symbols ++ after)
  | _, .nil, behind => behind
  | _, .terminal text others, behind => .terminal text (others.append behind)
  | _, .rule found choice children others, behind =>
    .rule found choice children (others.append behind)

variable {symbols after : List Symbol}

@[simp] theorem text_append (f : Forest g symbols) (behind : Forest g after) :
    (f.append behind).text = f.text ++ behind.text := by
  induction f with
  | nil => simp [append]
  | terminal text others ih => simp [append, ih, String.append_assoc]
  | rule found choice children others _ ih => simp [append, ih, String.append_assoc]

@[simp] theorem size_append (f : Forest g symbols) (behind : Forest g after) :
    (f.append behind).size = f.size + behind.size := by
  induction f with
  | nil => simp [append, size]
  | terminal text others ih => simp [append, size, ih]
  | rule found choice children others _ ih =>
    simp only [append, size, ih]
    omega

end Forest

namespace Grammar

/-- Some forest of the symbols spells a text. -/
def Derives (g : Grammar) (symbols : List Symbol) (text : String) : Prop :=
  ∃ f : Forest g symbols, f.text = text

variable {g : Grammar}

@[simp] theorem derives_nil {text : String} : g.Derives [] text ↔ text = "" := by
  constructor
  · rintro ⟨f, rfl⟩
    cases f
    rfl
  · rintro rfl
    exact ⟨.nil, rfl⟩

theorem derives_terminal_cons {piece text : String} {rest : List Symbol} :
    g.Derives (.terminal piece :: rest) text ↔
      ∃ others, g.Derives rest others ∧ text = piece ++ others := by
  constructor
  · rintro ⟨f, rfl⟩
    cases f with
    | terminal _ others => exact ⟨_, ⟨others, rfl⟩, rfl⟩
  · rintro ⟨_, ⟨others, rfl⟩, rfl⟩
    exact ⟨.terminal piece others, rfl⟩

theorem derives_rule_cons {name text : String} {rest : List Symbol} :
    g.Derives (.rule name :: rest) text ↔
      ∃ piece others, g.Derives [.rule name] piece ∧ g.Derives rest others ∧
        text = piece ++ others := by
  constructor
  · rintro ⟨f, rfl⟩
    cases f with
    | rule found choice children others =>
      exact ⟨_, _, ⟨.rule found choice children .nil, rfl⟩, ⟨others, rfl⟩, by simp⟩
  · rintro ⟨_, _, ⟨f, rfl⟩, ⟨others, rfl⟩, rfl⟩
    cases f with
    | rule found choice children none_left =>
      cases none_left
      exact ⟨.rule found choice children others, by simp⟩

@[simp] theorem derives_terminal {piece text : String} :
    g.Derives [.terminal piece] text ↔ text = piece := by
  rw [derives_terminal_cons]
  simp

/-- What a sequence derives is what its first symbol derives and then what the others derive. -/
theorem derives_cons {s : Symbol} {rest : List Symbol} {text : String} :
    g.Derives (s :: rest) text ↔
      ∃ piece others, g.Derives [s] piece ∧ g.Derives rest others ∧ text = piece ++ others := by
  cases s with
  | terminal piece =>
    rw [derives_terminal_cons]
    simp
  | rule name => exact derives_rule_cons

/-- A rule derives what one of its alternatives derives. -/
theorem derives_rule {name text : String} :
    g.Derives [.rule name] text ↔
      ∃ r, g.rule? name = some r ∧ ∃ symbols ∈ r.alternatives, g.Derives symbols text := by
  constructor
  · rintro ⟨f, rfl⟩
    cases f with
    | rule found choice children none_left =>
      cases none_left
      exact ⟨_, found, _, List.getElem_mem choice.isLt, children, by simp⟩
  · rintro ⟨r, found, symbols, listed, f, rfl⟩
    obtain ⟨i, bound, rfl⟩ := List.getElem_of_mem listed
    exact ⟨.rule found ⟨i, bound⟩ f .nil, by simp⟩

end Grammar

end GuidedDecoding
