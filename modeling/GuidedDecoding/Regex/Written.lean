/-!
# Regular expressions as they are written

The written form keeps what the reader saw: groups, changes of flags, classes of characters with
their nested parts. What it means depends on the flags that are in force where it stands.
-/

namespace GuidedDecoding

/-- What changes the meaning of an expression. -/
inductive RegexFlag where
  | ignoreCase
  | multiLine
  | dotAll
  | swapGreed
  | unicode
  | crlf
  | ignoreSpace
deriving DecidableEq, Repr

/-- Flags that are turned on or off. -/
abbrev FlagChange := List (RegexFlag × Bool)

/-- A condition on a place, as it is written. -/
inductive Anchor where
  | startLine
  | endLine
  | startText
  | endText
  | wordBoundary
  | notWordBoundary
  | wordStart
  | wordEnd
  | wordStartHalf
  | wordEndHalf
deriving DecidableEq, Repr

/-- The classes with a letter of their own. -/
inductive ShorthandClass where
  | digit
  | space
  | word
deriving DecidableEq, Repr

/-- What an escape or a single character stands for. A literal that is written as two hexadecimal
digits may stand for a byte. -/
inductive Atom where
  | literal (c : Char) (asByte : Bool)
  | dot
  | anchor (a : Anchor)
  | shorthand (negated : Bool) (kind : ShorthandClass)
  | property (negated : Bool) (name : List Char)
deriving DecidableEq, Repr

/-- How two sets in a class are combined. -/
inductive SetOperation where
  | intersection
  | difference
  | symmetricDifference
deriving DecidableEq, Repr

/-- A part of a class. -/
inductive ClassItem where
  | atom (a : Atom)
  | range (first last : Char) (asByte : Bool)
  | named (negated : Bool) (name : List Char)
  | bracketed (negated : Bool) (body : ClassItem)
  | union (items : List ClassItem)
  | operation (op : SetOperation) (lhs rhs : ClassItem)
deriving Inhabited, Repr

/-- An expression as it is written. -/
inductive Written where
  | empty
  | flags (change : FlagChange)
  | atom (a : Atom)
  | bracketed (negated : Bool) (body : ClassItem)
  | repetition (least : Nat) (most : Option Nat) (body : Written)
  | group (change : FlagChange) (body : Written)
  | choice (branches : List Written)
  | row (items : List Written)
deriving Inhabited, Repr

namespace ClassItem

/-- Several parts of a class as one. -/
def ofParts : List ClassItem → ClassItem
  | [item] => item
  | items => .union items

mutual

/-- How deep the parts of a class nest. -/
def depth : ClassItem → Nat
  | .bracketed _ body => body.depth + 1
  | .union items => if items.isEmpty then 0 else depthOfItems items + 1
  | .operation _ lhs rhs => max lhs.depth rhs.depth + 1
  | _ => 0

/-- The greatest depth of some parts. -/
def depthOfItems : List ClassItem → Nat
  | [] => 0
  | item :: rest => max item.depth (depthOfItems rest)

end

end ClassItem

namespace Written

/-- Several expressions in a row as one. -/
def ofRow : List Written → Written
  | [] => .empty
  | [item] => item
  | items => .row items

mutual

/-- How deep an expression nests. -/
def depth : Written → Nat
  | .bracketed _ body => body.depth + 1
  | .repetition _ _ body => body.depth + 1
  | .group _ body => body.depth + 1
  | .choice branches => depthOfList branches + 1
  | .row items => depthOfList items + 1
  | _ => 0

/-- The greatest depth of some expressions. -/
def depthOfList : List Written → Nat
  | [] => 0
  | item :: rest => max item.depth (depthOfList rest)

end

/-- Whether a repetition may follow. -/
def isRepeatable : Written → Bool
  | .empty => false
  | .flags _ => false
  | _ => true

end Written

end GuidedDecoding
