import GuidedDecoding.Error.Compile
import GuidedDecoding.Grammar.Codec

/-!
# Merging productions

Productions of one rule are merged: an alternative that was listed before is not listed again, the
first field that a rule is bound to stays, and every constraint with a production of the rule is a
source of it. The constraint that listed an alternative first answers for it.
-/

namespace GuidedDecoding

/-- An alternative with the constraint that listed it first. -/
structure ListedAlternative where
  symbols : List Symbol
  source : String

/-- The field that a rule generates, with the constraint that said so first. -/
structure FieldBinding where
  field : String
  source : String

/-- What the productions of one rule amount to. -/
structure MergedRule where
  alternatives : List ListedAlternative := []
  binding : Option FieldBinding := none
  sources : NameSet := ∅

/-- Merged rules sorted by name. -/
structure MergedRules where
  rules : List (String × MergedRule)
  sorted : Keyed.Sorted rules

namespace Grammar

/-- Whether a character may begin the name of a rule. -/
def isNameStart (c : Char) : Bool := c.isAlpha || c = '_'

/-- Whether a character may go on the name of a rule. -/
def isNamePart (c : Char) : Bool := c.isAlphanum || c = '_' || c = '-'

/-- Names of rules are made of ASCII letters, digits, underscores and hyphens, and begin with a
letter or an underscore. -/
def isRuleName (name : String) : Bool :=
  match name.toList with
  | [] => false
  | c :: rest => isNameStart c && rest.all isNamePart

end Grammar

/-- What is wrong with a symbol by itself. -/
def Symbol.fault? : Symbol → Option String
  | .terminal text => if text.isEmpty then some "empty terminal" else none
  | .rule name => if Grammar.isRuleName name then none else some s!"invalid rule reference `{name}`"

/-- What is wrong with a production by itself. -/
def Grammar.productionFault? (rule : String) (alternatives : List (List Symbol)) : Option String :=
  if !isRuleName rule then some s!"invalid rule name `{rule}`"
  else if alternatives.isEmpty then some s!"rule `{rule}` has no alternatives"
  else alternatives.flatten.findSome? Symbol.fault?

namespace MergedRule

/-- The rule with one more alternative, unless it is listed already. -/
def list (source : String) (m : MergedRule) (symbols : List Symbol) : MergedRule :=
  if m.alternatives.any fun a => a.symbols = symbols then m
  else { m with alternatives := m.alternatives ++ [⟨symbols, source⟩] }

/-- The binding of a rule after a constraint asks for another one. -/
def bind (rule source : String) : (bound : Option FieldBinding) → (asked : Option String) →
    Except CompileError (Option FieldBinding)
  | bound, none => .ok bound
  | none, some field => .ok (some ⟨field, source⟩)
  | some b, some field =>
    if b.field = field then .ok (some b)
    else
      .error (.inconsistent
        (if source < b.source then [source, b.source] else [b.source, source])
        s!"rule `{rule}` bound to both `{b.field}` and `{field}`")

/-- The rule together with a production of it. -/
def add (m : MergedRule) (rule source : String) (alternatives : List (List Symbol))
    (field : Option String) : Except CompileError MergedRule := do
  let binding ← bind rule source m.binding field
  let listed := alternatives.foldl (list source) m
  return { listed with binding, sources := m.sources.insert source }

/-- The rule as part of a grammar. -/
def toRule (m : MergedRule) : GrammarRule where
  alternatives := m.alternatives.map ListedAlternative.symbols
  field := m.binding.map FieldBinding.field
  sources := m.sources

end MergedRule

namespace MergedRules

def empty : MergedRules := ⟨[], Keyed.sorted_nil⟩

/-- The rules together with what a constraint says. -/
def add (m : MergedRules) (c : Constraint) : Except CompileError MergedRules :=
  match c.payload with
  | .production rule alternatives field =>
    match Grammar.productionFault? rule alternatives with
    | some reason => .error (.invalidConstraint c.id reason)
    | none => do
      let merged ← ((Keyed.get? rule m.rules).getD {}).add rule c.id alternatives field
      return ⟨Keyed.insert rule merged m.rules, Keyed.sorted_insert m.sorted⟩
  | _ => .error (.invalidConstraint c.id "grammar constraint without a production payload")

/-- The rules that constraints amount to. -/
def ofConstraints (constraints : List Constraint) : Except CompileError MergedRules :=
  constraints.foldlM add empty

/-- The grammar of the rules. -/
def toGrammar (m : MergedRules) : Grammar where
  rules := m.rules.map fun r => (r.1, r.2.toRule)
  sorted := by simpa [Keyed.Sorted, Function.comp_def] using m.sorted

/-- A reference to a rule that does not exist, the first by name of the rule that has it. -/
def undefined? (m : MergedRules) : Option CompileError :=
  m.rules.findSome? fun r =>
    r.2.alternatives.findSome? fun a =>
      (a.symbols.filterMap Symbol.reference?).findSome? fun name =>
        if Keyed.has name m.rules then none
        else some (.invalidConstraint a.source s!"rule `{r.1}` references undefined rule `{name}`")

end MergedRules

end GuidedDecoding
