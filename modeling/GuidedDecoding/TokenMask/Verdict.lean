import GuidedDecoding.Pattern.Basic
import GuidedDecoding.Regex.Library
import GuidedDecoding.TokenMask.Basic

/-!
# What a mask says about a symbol

A pattern selects the symbols that it matches as a whole. A deny rule that selects a symbol is
named before an allow rule that does not, and of either kind the first such rule is named.
-/

namespace GuidedDecoding

variable [RegexLibrary]

namespace SymbolMatcher

/-- A matcher whose pattern has been compiled. -/
inductive Ready where
  | literals (members : NameSet)
  | startingWith (text : String)
  | pattern (program : RegexLibrary.Program)

/-- Whether a symbol is selected. -/
def Ready.selects : Ready → String → Bool
  | .literals members, symbol => decide (symbol ∈ members)
  | .startingWith text, symbol => text.toList.isPrefixOf symbol.toList
  | .pattern program, symbol => RegexLibrary.isMatch program symbol

/-- Compile the pattern of a matcher, if it has one. -/
def ready : SymbolMatcher → Except RegexFault Ready
  | .literals members => .ok (.literals members)
  | .startingWith text => .ok (.startingWith text)
  | .pattern source => (RegexLibrary.compile (NamedPattern.anchored source)).map .pattern

end SymbolMatcher

/-- A rule whose matcher is ready. -/
structure ReadyRule where
  action : MaskAction
  matcher : SymbolMatcher.Ready
  source : String

/-- What a mask says about a symbol, with the constraint that forbids it. -/
inductive MaskVerdict where
  | permitted
  | deniedBy (source : String)
  | notAllowedBy (source : String)
deriving DecidableEq, Repr

namespace MaskVerdict

/-- The constraint that forbids the symbol. -/
def blocker? : MaskVerdict → Option String
  | .permitted => none
  | .deniedBy source => some source
  | .notAllowedBy source => some source

/-- Whether nothing forbids the symbol. -/
def isPermitted (v : MaskVerdict) : Bool := v.blocker?.isNone

end MaskVerdict

namespace ReadyRule

/-- Whether a rule denies a symbol. -/
def denies (symbol : String) (r : ReadyRule) : Bool :=
  r.action = .deny && r.matcher.selects symbol

/-- Whether a rule allows only other symbols. -/
def excludes (symbol : String) (r : ReadyRule) : Bool :=
  r.action = .allow && !r.matcher.selects symbol

/-- What rules say about a symbol together. -/
def verdict (rules : List ReadyRule) (symbol : String) : MaskVerdict :=
  match rules.find? (denies symbol) with
  | some r => .deniedBy r.source
  | none =>
    match rules.find? (excludes symbol) with
    | some r => .notAllowedBy r.source
    | none => .permitted

end ReadyRule

namespace TokenMask

/-- The rules of a mask with their patterns compiled. -/
def ready (m : TokenMask) : Except RegexFault (List ReadyRule) :=
  m.rules.mapM fun r => r.selects.ready.map fun matcher => ⟨r.action, matcher, r.source⟩

end TokenMask

end GuidedDecoding
