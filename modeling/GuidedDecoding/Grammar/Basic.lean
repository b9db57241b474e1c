import GuidedDecoding.Constraint.Basic
import GuidedDecoding.Keyed

/-!
# Grammars

A grammar is a set of named rules. Each rule lists its alternatives in the order in which they
were first declared, and an empty alternative derives the empty string. A rule may be bound to a
field, whose value it then generates.
-/

namespace GuidedDecoding

/-- One rule, with the constraints that declared it. -/
structure GrammarRule where
  alternatives : List (List Symbol)
  field : Option String
  sources : NameSet
deriving DecidableEq

/-- Rules sorted by name. -/
structure Grammar where
  rules : List (String × GrammarRule)
  sorted : Keyed.Sorted rules
deriving DecidableEq

namespace Symbol

/-- The name of the rule that a symbol refers to. -/
def reference? : Symbol → Option String
  | .rule name => some name
  | .terminal _ => none

/-- The text that a symbol stands for. -/
def terminal? : Symbol → Option String
  | .terminal text => some text
  | .rule _ => none

end Symbol

namespace GrammarRule

/-- All symbols of all alternatives. -/
def symbols (r : GrammarRule) : List Symbol := r.alternatives.flatten

/-- The rules that the alternatives refer to. -/
def references (r : GrammarRule) : List String := r.symbols.filterMap Symbol.reference?

/-- The texts that the alternatives spell out. -/
def terminals (r : GrammarRule) : List String := r.symbols.filterMap Symbol.terminal?

end GrammarRule

namespace Grammar

/-- The rule of a name. -/
def rule? (g : Grammar) (name : String) : Option GrammarRule := Keyed.get? name g.rules

/-- Whether a rule with another name refers to this one. -/
def isReferenced (g : Grammar) (name : String) : Bool :=
  g.rules.any fun r => r.1 ≠ name && r.2.references.contains name

/-- The rules that no other rule refers to; generation starts from these. -/
def roots (g : Grammar) : List String :=
  (g.rules.map Prod.fst).filter fun name => !g.isReferenced name

/-- Every text that the grammar can emit in one piece. -/
def terminals (g : Grammar) : NameSet := .ofList (g.rules.flatMap fun r => r.2.terminals)

/-- The rules that generate the value of a field: the field, the name and the rule. -/
def boundRules (g : Grammar) : List (String × String × GrammarRule) :=
  g.rules.filterMap fun r => r.2.field.map fun field => (field, r.1, r.2)

end Grammar

end GuidedDecoding
