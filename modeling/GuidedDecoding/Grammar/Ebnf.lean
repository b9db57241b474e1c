import GuidedDecoding.Grammar.Basic

/-!
# Grammars as EBNF text

One line per rule, the roots first and then the other rules, both in the order of their names.
Terminals stand between double quotes, in which a backslash and a double quote are escaped by a
backslash. An empty alternative is a pair of quotes.
-/

namespace GuidedDecoding

namespace Grammar

/-- How a character of a terminal stands between quotes. -/
def escapedChar (c : Char) : List Char := if c = '\\' ∨ c = '"' then ['\\', c] else [c]

/-- The text of a symbol. -/
def symbolText : Symbol → List Char
  | .terminal text => '"' :: text.toList.flatMap escapedChar ++ ['"']
  | .rule name => name.toList

/-- The text of an alternative. -/
def alternativeText (symbols : List Symbol) : List Char :=
  if symbols.isEmpty then ['"', '"'] else [' '].intercalate (symbols.map symbolText)

/-- The line of a rule. -/
def ruleText (name : String) (rule : GrammarRule) : List Char :=
  name.toList ++ [' ', ':', ':', '=', ' ']
    ++ [' ', '|', ' '].intercalate (rule.alternatives.map alternativeText) ++ [' ', ';', '\n']

/-- The rules, the roots first. -/
def rootsFirst (g : Grammar) : List (String × GrammarRule) :=
  g.rules.filter (fun r => !g.isReferenced r.1) ++ g.rules.filter fun r => g.isReferenced r.1

/-- The text of the grammar. -/
def ebnf (g : Grammar) : String :=
  String.ofList (g.rootsFirst.flatMap fun r => ruleText r.1 r.2)

end Grammar

end GuidedDecoding
