import GuidedDecoding.Regex.Basic
import GuidedDecoding.Regex.Property
import GuidedDecoding.Regex.Written

/-!
# What written expressions mean

The meaning of an expression depends on the flags in force. A change of flags holds up to the end
of the group in which it stands, also across the bars between alternatives. With the Unicode flag
off an expression deals in bytes, and what could match part of a character has no meaning.
-/

namespace GuidedDecoding

/-- The flags in force. Which of several matches is preferred does not matter here, and white space
was dealt with by the reader. -/
structure RegexMode where
  ignoreCase : Bool := false
  multiLine : Bool := false
  dotAll : Bool := false
  unicode : Bool := true
  crlf : Bool := false

namespace RegexMode

/-- The flags after one of them is set. -/
def set (m : RegexMode) (flag : RegexFlag) (on : Bool) : RegexMode :=
  match flag with
  | .ignoreCase => { m with ignoreCase := on }
  | .multiLine => { m with multiLine := on }
  | .dotAll => { m with dotAll := on }
  | .unicode => { m with unicode := on }
  | .crlf => { m with crlf := on }
  | .swapGreed => m
  | .ignoreSpace => m

/-- The flags after a change. -/
def apply (m : RegexMode) (change : FlagChange) : RegexMode :=
  change.foldl (fun m c => m.set c.1 c.2) m

/-- A set together with what differs from it only in case, if case is ignored. -/
def folded (m : RegexMode) (s : CharSet) : CharSet :=
  if m.ignoreCase then .folded (!m.unicode) s else s

/-- A set or what is not in it. Bytes that are not in a set are more than ASCII. -/
def negated? (m : RegexMode) (negated : Bool) (s : CharSet) : Option CharSet :=
  if negated then (if m.unicode then some (.compl s) else none) else some s

/-- Whether a literal may stand in a class: classes of bytes have ASCII members only. -/
def admitsInClass (m : RegexMode) (c : Char) : Bool := m.unicode || c.toNat < 0x80

end RegexMode

/-- The characters of an ASCII class. -/
def asciiClass (name : List Char) : CharSet :=
  let upper := CharSet.range 'A' 'Z'
  let lower := CharSet.range 'a' 'z'
  let digit := CharSet.range '0' '9'
  let space := CharSet.union (.range '\t' '\r') (.one ' ')
  match String.ofList name with
  | "alnum" => .unions [digit, upper, lower]
  | "alpha" => .union upper lower
  | "ascii" => .range '\x00' '\x7f'
  | "blank" => .union (.one '\t') (.one ' ')
  | "cntrl" => .union (.range '\x00' '\x1f') (.one '\x7f')
  | "digit" => digit
  | "graph" => .range '!' '~'
  | "lower" => lower
  | "print" => .range ' ' '~'
  | "punct" => .unions [.range '!' '/', .range ':' '@', .range '[' '\x60', .range '\x7b' '~']
  | "space" => space
  | "upper" => upper
  | "word" => .unions [digit, upper, lower, .one '_']
  | "xdigit" => .unions [digit, .range 'A' 'F', .range 'a' 'f']
  | _ => .none

/-- The characters of a class with a letter of its own. -/
def ShorthandClass.members (unicode : Bool) : ShorthandClass → CharSet
  | .digit => if unicode then .points Text.decimalNumbers else asciiClass "digit".toList
  | .space => if unicode then .points Text.whiteSpace else asciiClass "space".toList
  | .word => if unicode then .points Text.wordCharacters else asciiClass "word".toList

/-- The characters of an atom that stands for one character. -/
def Atom.members? (m : RegexMode) : Atom → Option CharSet
  | .shorthand negated kind => m.negated? negated (kind.members m.unicode)
  | .property negated name => do
    if m.unicode then m.negated? negated (m.folded (← CharacterProperty.find? name)) else none
  | .literal c _ => if m.admitsInClass c then some (.one c) else none
  | _ => none

/-- The result of an operation on two sets. -/
def SetOperation.combine : SetOperation → CharSet → CharSet → CharSet
  | .intersection, s, t => .inter s t
  | .difference, s, t => s.diff t
  | .symmetricDifference, s, t => s.symmDiff t

namespace ClassItem

mutual

/-- The characters of a part of a class. -/
def members? (m : RegexMode) : ClassItem → Option CharSet
  | .atom a => a.members? m
  | .range first last _ =>
    if m.admitsInClass first && m.admitsInClass last then some (.range first last) else none
  | .named negated name => m.negated? negated (m.folded (asciiClass name))
  | .bracketed negated body => do m.negated? negated (m.folded (← body.members? m))
  | .union items => (membersOfItems? m items).map CharSet.unions
  | .operation op lhs rhs => do
    return op.combine (m.folded (← lhs.members? m)) (m.folded (← rhs.members? m))

/-- The characters of each of some parts. -/
def membersOfItems? (m : RegexMode) : List ClassItem → Option (List CharSet)
  | [] => some []
  | item :: rest => do return (← item.members? m) :: (← membersOfItems? m rest)

end

end ClassItem

/-- The condition that an anchor states. -/
def Anchor.look (m : RegexMode) : Anchor → Look
  | .startLine =>
    if m.multiLine then (if m.crlf then .crlfStart else .lineStart) else .textStart
  | .endLine => if m.multiLine then (if m.crlf then .crlfEnd else .lineEnd) else .textEnd
  | .startText => .textStart
  | .endText => .textEnd
  | .wordBoundary => .word .boundary (!m.unicode)
  | .notWordBoundary => .word .inside (!m.unicode)
  | .wordStart => .word .start (!m.unicode)
  | .wordEnd => .word .ending (!m.unicode)
  | .wordStartHalf => .word .startHalf (!m.unicode)
  | .wordEndHalf => .word .endHalf (!m.unicode)

/-- The characters that a dot stands for. -/
def RegexMode.dot (m : RegexMode) : CharSet :=
  if m.dotAll then .all
  else if m.crlf then .compl (.union (.one '\n') (.one '\r'))
  else .compl (.one '\n')

/-- What an atom means. -/
def Atom.meaning? (m : RegexMode) : Atom → Option Regex
  | .anchor a => some (.look (a.look m))
  | .dot => if m.unicode then some (.set m.dot) else none
  | .literal c asByte =>
    if !m.unicode && asByte && 0x80 ≤ c.toNat then none else some (.set (m.folded (.one c)))
  | a => (a.members? m).map .set

namespace Written

mutual

/-- What an expression means under some flags, and the flags that are in force after it. -/
def meaning? (m : RegexMode) : Written → Option (Regex × RegexMode)
  | .empty => some (.empty, m)
  | .flags change => some (.empty, m.apply change)
  | .atom a => (a.meaning? m).map (·, m)
  | .bracketed negated body => do
    return (.set (← m.negated? negated (m.folded (← body.members? m))), m)
  | .repetition least most body => do
    let (r, m) ← body.meaning? m
    return (.repeated least most r, m)
  | .group change body => do
    let (r, _) ← body.meaning? (m.apply change)
    return (r, m)
  | .choice branches => do
    let (rs, m) ← meanings? m branches
    return (.choice rs, m)
  | .row items => do
    let (rs, m) ← meanings? m items
    return (.sequence rs, m)

/-- What expressions mean one after another. -/
def meanings? (m : RegexMode) : List Written → Option (List Regex × RegexMode)
  | [] => some ([], m)
  | item :: rest => do
    let (r, m) ← item.meaning? m
    let (rs, m) ← meanings? m rest
    return (r :: rs, m)

end

end Written

end GuidedDecoding
