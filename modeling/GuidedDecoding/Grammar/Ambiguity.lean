import GuidedDecoding.Grammar.Lookahead
import GuidedDecoding.Grammar.Productions
import GuidedDecoding.Text.Quoted

/-!
# Choices that one character cannot decide

A rule is ambiguous when the next character does not tell which alternative to take: two
alternatives can start with it, or one can start with it while another can be empty with the
character coming after the rule, or two can be empty. The characters named are the smallest ones.
-/

namespace GuidedDecoding

/-- Why the next character does not decide between alternatives. -/
inductive Ambiguity where
  | sharedStart (one other : ListedAlternative) (next : Char)
  | severalEmpty (alternatives : List ListedAlternative)
  | startFollows (empty other : ListedAlternative) (next : Char)

/-- The text of a symbol in a message. -/
def Symbol.described : Symbol → String
  | .terminal text => Text.quoted text
  | .rule name => name

/-- The text of an alternative in a message. -/
def ListedAlternative.described (a : ListedAlternative) : String :=
  if a.symbols.isEmpty then "\"\"" else " ".intercalate (a.symbols.map Symbol.described)

namespace Ambiguity

/-- The alternatives in question. -/
def alternatives : Ambiguity → List ListedAlternative
  | .sharedStart one other _ => [one, other]
  | .severalEmpty alternatives => alternatives
  | .startFollows empty other _ => [empty, other]

def message (rule : String) : Ambiguity → String
  | .sharedStart one other next =>
    s!"alternatives {one.described} and {other.described} can both start with {Text.quotedOne next}"
  | .severalEmpty _ => "more than one alternative derives the empty string"
  | .startFollows _ other next =>
    s!"alternative {other.described} starts with {Text.quotedOne next}, "
      ++ s!"which can also follow `{rule}`"

/-- The ambiguity of a rule as an error of its alternatives' constraints. -/
def toError (rule : String) (a : Ambiguity) : CompileError :=
  .ambiguousGrammar rule (NameSet.ofList (a.alternatives.map ListedAlternative.source)).toList
    (a.message rule)

end Ambiguity

/-- An alternative with what it can start with. -/
structure Choice where
  alternative : ListedAlternative
  starts : List (Option Char)

namespace Choice

/-- The least character of a list. -/
def least? : List Char → Option Char
  | [] => none
  | c :: rest =>
    match least? rest with
    | some d => if d < c then some d else some c
    | none => some c

/-- Whether the alternative can be empty. -/
def isEmpty (c : Choice) : Bool := c.starts.contains none

/-- The least character that the alternative can start with and that a list holds. -/
def common? (c : Choice) (others : List (Option Char)) : Option Char :=
  least? ((c.starts.filter others.contains).filterMap id)

/-- Two alternatives that start alike, the first such pair. -/
def sharedStart? : List Choice → Option Ambiguity
  | [] => none
  | c :: rest =>
    let found := rest.findSome? fun d =>
      (c.common? d.starts).map (.sharedStart c.alternative d.alternative)
    match found with
    | some found => some found
    | none => sharedStart? rest

/-- An alternative that starts with what can follow the rule, beside one that can be empty. -/
def startFollows? (after : List (Option Char)) (empty : Choice) (others : List Choice) :
    Option Ambiguity :=
  others.findSome? fun c =>
    (c.common? after).map (.startFollows empty.alternative c.alternative)

/-- Why the next character does not decide between the choices of a rule. -/
def ambiguity? (after : List (Option Char)) (choices : List Choice) : Option Ambiguity :=
  match sharedStart? choices with
  | some found => some found
  | none =>
    match choices.filter isEmpty with
    | [] => none
    | [empty] => startFollows? after empty (choices.filter fun c => !c.isEmpty)
    | several => some (.severalEmpty (several.map Choice.alternative))

end Choice

namespace MergedRules

/-- The first rule, by name, whose alternatives the next character does not tell apart. -/
def ambiguous? (m : MergedRules) : Option CompileError :=
  let g := m.toGrammar
  let starts := g.starts
  let follows := g.follows starts
  m.rules.findSome? fun r =>
    (Choice.ambiguity? (Grammar.factsAbout r.1 follows)
      (r.2.alternatives.map fun a => ⟨a, Grammar.startsOf starts a.symbols⟩)).map
        (Ambiguity.toError r.1)

end MergedRules

end GuidedDecoding
