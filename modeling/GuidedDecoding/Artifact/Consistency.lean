import GuidedDecoding.Artifact.Basic
import GuidedDecoding.Error.Compile
import GuidedDecoding.Grammar.Language
import GuidedDecoding.Pattern.Compile
import GuidedDecoding.Schema.Literal
import GuidedDecoding.Text.Quoted
import GuidedDecoding.TokenMask.Verdict

/-!
# Fragments that fit together

Fragments that can never be satisfied together are refused. Fields that patterns and rules speak of
have to be declared by the schema; what a rule generates for a field has to be a value of the
field's type that all patterns on the field match; and the mask has to permit every terminal. A rule
whose language is infinite or larger than a limit is not compared with types and patterns.
-/

namespace GuidedDecoding

variable [RegexLibrary]

namespace Fragments

/-- Some constraints together make no sense. -/
def inconsistent (sources : List String) (reason : String) : CompileError :=
  .inconsistent (NameSet.ofList sources).toList reason

/-- A pattern on a field that the schema does not declare. -/
def undeclaredPattern? (schema : Schema) (patterns : PatternSet) : Option CompileError :=
  (patterns.patterns.find? fun p => (schema.lookup p.field).isNone).map fun p =>
    inconsistent [p.source]
      s!"pattern targets field `{p.field}`, which the schema does not declare"

/-- A value that a rule generates for a field but that is not of the field's type. -/
def misfit? (field name : String) (rule : GrammarRule) (slot : SchemaField)
    (language : NameSet) : Option CompileError :=
  (language.toList.find? fun value => !slot.type.admits value).map fun value =>
    inconsistent (rule.sources.toList ++ slot.sources.toList)
      (s!"rule `{name}` derives {Text.quoted value}, which is not a valid "
        ++ s!"{slot.type.name} for field `{field}`")

/-- A rule that generates a field that the schema does not declare, or a wrong value for it. -/
def mistyped? (limit : Nat) (grammar : Grammar) (schema : Schema) : Option CompileError :=
  grammar.boundRules.findSome? fun (field, name, rule) =>
    match schema.lookup field with
    | none =>
      some (inconsistent rule.sources.toList
        s!"rule `{name}` generates field `{field}`, which the schema does not declare")
    | some slot => (grammar.finiteLanguage name limit).bind (misfit? field name rule slot)

/-- A value that a rule generates for a field but that a pattern on the field does not match. -/
def mismatch? (field name : String) (rule : GrammarRule) (language : NameSet) (p : NamedPattern) :
    Option CompileError :=
  match RegexLibrary.compile p.pattern with
  | .error fault => some (.invalidPattern p.source p.pattern fault.message)
  | .ok program =>
    (language.toList.find? fun value => !RegexLibrary.isMatch program value).map fun value =>
      inconsistent (rule.sources.toList ++ [p.source])
        (s!"rule `{name}` derives {Text.quoted value}, which field `{field}` "
          ++ s!"pattern {p.pattern} rejects")

/-- A rule that generates what a pattern on its field does not match. -/
def rejected? (limit : Nat) (grammar : Grammar) (patterns : PatternSet) : Option CompileError :=
  grammar.boundRules.findSome? fun (field, name, rule) =>
    match patterns.forField field with
    | [] => none
    | onField =>
      (grammar.finiteLanguage name limit).bind fun language =>
        onField.findSome? (mismatch? field name rule language)

/-- A terminal that the mask forbids. -/
def forbidden? (grammar : Grammar) (mask : TokenMask) : Option CompileError :=
  match mask.ready with
  | .error fault =>
    some (.inconsistent (mask.rules.map MaskRule.source)
      s!"token mask does not compile: {fault.message}")
  | .ok rules =>
    grammar.rules.findSome? fun (name, rule) =>
      rule.terminals.findSome? fun text =>
        (ReadyRule.verdict rules text).blocker?.map fun blocker =>
          inconsistent (rule.sources.toList ++ [blocker])
            s!"rule `{name}` requires terminal {Text.quoted text}, which the token mask forbids"

/-- Compare two fragments, if there are both. -/
def compare? {α β : Type} (check : α → β → Option CompileError) : Option α → Option β →
    Option CompileError
  | some a, some b => check a b
  | _, _ => none

/-- Why the fragments do not fit together. -/
def fault? (f : Fragments) (limit : Nat) : Option CompileError :=
  compare? undeclaredPattern? f.schema f.patterns
    <|> compare? (mistyped? limit) f.grammar f.schema
    <|> compare? (rejected? limit) f.grammar f.patterns
    <|> compare? forbidden? f.grammar f.mask

end Fragments

end GuidedDecoding
