import GuidedDecoding.Regex.CharSet
import GuidedDecoding.Text.Property

/-!
# Regular expressions

An expression is built from sets of characters and from conditions on the place where it stands.
It describes stretches of a text: `Regex.Matches` says which. There are no references back to what
was matched, and conditions look at most at the two characters beside their place.
-/

namespace GuidedDecoding

/-- How a place lies with regard to words. The half conditions look to one side only. -/
inductive WordPlace where
  | boundary
  | inside
  | start
  | ending
  | startHalf
  | endHalf
deriving DecidableEq, Repr

/-- A condition on a place in a text. Lines end with a line feed; for `crlf` lines also a carriage
return or the two together end a line. -/
inductive Look where
  | textStart
  | textEnd
  | lineStart
  | lineEnd
  | crlfStart
  | crlfEnd
  | word (place : WordPlace) (ascii : Bool)
deriving DecidableEq, Repr

/-- A regular expression. -/
inductive Regex where
  | empty
  | set (s : CharSet)
  | look (l : Look)
  | seq (r s : Regex)
  | alt (r s : Regex)
  | loop (least : Nat) (most : Option Nat) (r : Regex)

namespace Look

/-- ASCII letters, digits and the underscore. -/
def isAsciiWord (c : Char) : Bool := c.isAlphanum || c == '_'

/-- Whether a character, if there is one, belongs to words. -/
def isWord (ascii : Bool) : Option Char → Bool
  | some c => if ascii then isAsciiWord c else Text.wordCharacters.contains c
  | none => false

/-- Whether a condition on words holds between two sides. -/
def wordHolds (place : WordPlace) (before after : Bool) : Bool :=
  match place with
  | .boundary => before != after
  | .inside => before == after
  | .start => !before && after
  | .ending => before && !after
  | .startHalf => !before
  | .endHalf => !after

/-- Whether a condition holds between two characters, either of which may be missing at an end of
the text. -/
def holds : Look → (before after : Option Char) → Bool
  | .textStart, before, _ => before.isNone
  | .textEnd, _, after => after.isNone
  | .lineStart, before, _ => before.isNone || before == some '\n'
  | .lineEnd, _, after => after.isNone || after == some '\n'
  | .crlfStart, before, after =>
    before.isNone || before == some '\n' || (before == some '\r' && after != some '\n')
  | .crlfEnd, before, after =>
    after.isNone || after == some '\r' || (after == some '\n' && before != some '\r')
  | .word place ascii, before, after => wordHolds place (isWord ascii before) (isWord ascii after)

/-- Whether a condition holds at a place in a text. -/
def holdsAt (l : Look) (text : List Char) (i : Nat) : Bool :=
  l.holds (if i = 0 then none else text[i - 1]?) text[i]?

end Look

namespace Regex

/-- The expression describes the stretch of the text from one place to another. -/
inductive Matches (text : List Char) : Regex → Nat → Nat → Prop where
  | empty (i : Nat) : Matches text .empty i i
  | set {s : CharSet} {i : Nat} {c : Char} (here : text[i]? = some c) (mem : s.contains c = true) :
    Matches text (.set s) i (i + 1)
  | look {l : Look} {i : Nat} (holds : l.holdsAt text i = true) : Matches text (.look l) i i
  | seq {r s : Regex} {i j k : Nat} (first : Matches text r i j) (second : Matches text s j k) :
    Matches text (.seq r s) i k
  | left {r s : Regex} {i j : Nat} (h : Matches text r i j) : Matches text (.alt r s) i j
  | right {r s : Regex} {i j : Nat} (h : Matches text s i j) : Matches text (.alt r s) i j
  | done {most : Option Nat} {r : Regex} (i : Nat) : Matches text (.loop 0 most r) i i
  | needed {least : Nat} {most : Option Nat} {r : Regex} {i j k : Nat}
      (room : most ≠ some 0) (first : Matches text r i j)
      (rest : Matches text (.loop least (most.map (· - 1)) r) j k) :
    Matches text (.loop (least + 1) most r) i k
  | further {most : Option Nat} {r : Regex} {i j k : Nat}
      (room : most ≠ some 0) (first : Matches text r i j)
      (rest : Matches text (.loop 0 (most.map (· - 1)) r) j k) :
    Matches text (.loop 0 most r) i k

/-- One expression after another. -/
def sequence (l : List Regex) : Regex := l.foldr .seq .empty

/-- Any of several expressions. -/
def choice : List Regex → Regex
  | [] => .set .none
  | [r] => r
  | r :: rest => .alt r (choice rest)

/-- Whether an expression describes empty stretches only. -/
def isNull : Regex → Bool
  | .empty => true
  | .set _ => false
  | .look _ => true
  | .seq r s => r.isNull && s.isNull
  | .alt r s => r.isNull && s.isNull
  | .loop _ most r => most == some 0 || r.isNull

/-- Whether repeating an expression in the same way once more changes nothing. -/
def isStable (least : Nat) (most : Option Nat) : Bool :=
  (least, most) == (0, none) || (least, most) == (1, none) || (least, most) == (0, some 1)

/-- An expression repeated. What is empty anyway is not repeated more than once. -/
def repeated (least : Nat) (most : Option Nat) (r : Regex) : Regex :=
  let (least, most) := if r.isNull then (min least 1, some (min (most.getD 1) 1)) else (least, most)
  if most = some 0 then .empty
  else if least = 1 ∧ most = some 1 then r
  else
    match r with
    | .loop l m _ =>
      if isStable least most && (l, m) == (least, most) then r else .loop least most r
    | _ => .loop least most r

/-- The room that an expression takes, in bytes. Beside its sets there is a state for each condition
and for each place from which there are two ways on. This is what the engine that is written here
measures limits with; another engine has a measure of its own. -/
def size : Regex → Nat
  | .empty => 0
  | .set s => s.size
  | .look _ => CharSet.stateSize
  | .seq r s => r.size + s.size
  | .alt r s => r.size + s.size + CharSet.stateSize
  | .loop least none r => (max least 1) * r.size + CharSet.stateSize
  | .loop least (some most) r => most * r.size + (most - least) * CharSet.stateSize

end Regex

end GuidedDecoding
