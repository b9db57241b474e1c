import GuidedDecoding.Regex.Written
import GuidedDecoding.Text.Property
import GuidedDecoding.Text.Blank

/-!
# The smallest parts of written expressions

Functions on the characters that are left return what they read and what follows it, or nothing
where the text is no expression. The flag `spaced` says that white space and comments between the
parts mean nothing.
-/

namespace GuidedDecoding

namespace RegexReader

/-- What is left after white space and comments, which run to the end of their line. -/
def afterBlanks (inComment : Bool) : List Char → List Char
  | [] => []
  | c :: rest =>
    if inComment then afterBlanks (c ≠ '\n') rest
    else if Text.isBlank c then afterBlanks false rest
    else if c = '#' then afterBlanks true rest
    else c :: rest

/-- What is left after white space and comments, where these mean nothing. -/
def skip (spaced : Bool) (cs : List Char) : List Char := if spaced then afterBlanks false cs else cs

/-- What is left after white space and comments, unless nothing is left. -/
def skipToMore? (spaced : Bool) (cs : List Char) : Option (List Char) :=
  match skip spaced cs with
  | [] => none
  | more => some more

/-- What is left after white space and the mark of a comment. -/
def pastMark (cs : List Char) : List Char :=
  match cs.dropWhile Text.isBlank with
  | '#' :: rest => rest.dropWhile Text.isBlank
  | seen => seen

/-- The next character after the one before `cs`, past white space and the mark of a comment. -/
def peek (spaced : Bool) (cs : List Char) : Option Char :=
  if spaced then
    if (pastMark cs).isEmpty then cs.head? else (pastMark cs).head?
  else cs.head?

/-- What follows a text at the head of another. -/
def dropLead? (lead : List Char) (cs : List Char) : Option (List Char) :=
  if lead.isPrefixOf cs then some (cs.drop lead.length) else none

/-- The value of a hexadecimal digit. -/
def hexDigit? (c : Char) : Option Nat :=
  if c.isDigit then some (c.toNat - '0'.toNat)
  else if 'a' ≤ c && c ≤ 'f' then some (c.toNat - 'a'.toNat + 10)
  else if 'A' ≤ c && c ≤ 'F' then some (c.toNat - 'A'.toNat + 10)
  else none

/-- The character of a number. -/
def charOf? (n : Nat) : Option Char := if n.isValidChar then some (Char.ofNat n) else none

/-- A number of hexadecimal digits. -/
def hexDigits? (spaced : Bool) : Nat → (value : Nat) → List Char → Option (Nat × List Char)
  | 0, value, cs => some (value, cs)
  | n + 1, value, c :: rest => do
    hexDigits? spaced n (value * 16 + (← hexDigit? c)) (skip spaced rest)
  | _ + 1, _, [] => none

/-- Hexadecimal digits up to a closing brace. -/
def hexInBraces? (spaced : Bool) : (steps : Nat) → (value : Option Nat) → List Char →
    Option (Nat × List Char)
  | 0, _, _ => none
  | steps + 1, value, cs =>
    match skip spaced cs with
    | [] => none
    | '\x7d' :: rest => value.map fun n => (n, skip spaced rest)
    | c :: rest => do
      hexInBraces? spaced steps (some (value.getD 0 * 16 + (← hexDigit? c))) rest

/-- A character by its number: `digits` hexadecimal digits, or any number of them in braces. -/
def hexEscape? (spaced : Bool) (digits : Nat) (cs : List Char) : Option (Atom × List Char) := do
  match ← skipToMore? spaced cs with
  | '\x7b' :: rest =>
    let (n, rest) ← hexInBraces? spaced (rest.length + 1) none rest
    return (.literal (← charOf? n) false, rest)
  | cs =>
    let (n, rest) ← hexDigits? spaced digits 0 cs
    return (.literal (← charOf? n) (digits == 2), rest)

/-- The name of a property up to a closing brace. -/
def nameInBraces? (spaced : Bool) : (steps : Nat) → List Char → Option (List Char × List Char)
  | 0, _ => none
  | steps + 1, cs =>
    match skip spaced cs with
    | [] => none
    | '\x7d' :: rest => some ([], rest)
    | c :: rest => (nameInBraces? spaced steps rest).map fun r => (c :: r.1, r.2)

/-- A property: one letter, or a name in braces. -/
def property? (spaced negated : Bool) (cs : List Char) : Option (Atom × List Char) := do
  match ← skipToMore? spaced cs with
  | '\x7b' :: rest =>
    let (name, rest) ← nameInBraces? spaced (rest.length + 1) rest
    return (.property negated name, rest)
  | '\\' :: _ => none
  | c :: rest => return (.property negated [c], skip spaced rest)
  | [] => none

/-- Characters that have a meaning somewhere and may be escaped. -/
def isMeta (c : Char) : Bool := "\\.+*?()|[]\x7b\x7d^$#&-~".toList.contains c

/-- Whether a backslash before a character makes it stand for itself. -/
def isEscapable (c : Char) : Bool :=
  isMeta c || (c.toNat < 0x80 && !c.isAlphanum && c ≠ '<' && c ≠ '>')

/-- The characters of a kind of place beside a word. -/
def placeName (spaced : Bool) : (steps : Nat) → List Char → List Char × List Char
  | 0, cs => ([], cs)
  | steps + 1, c :: rest =>
    if c.isAlpha || c = '-' then
      let r := placeName spaced steps (skip spaced rest)
      (c :: r.1, r.2)
    else ([], c :: rest)
  | _ + 1, [] => ([], [])

/-- The kinds of places beside words. -/
def placeOf? (name : List Char) : Option Anchor :=
  if name = "start".toList then some .wordStart
  else if name = "end".toList then some .wordEnd
  else if name = "start-half".toList then some .wordStartHalf
  else if name = "end-half".toList then some .wordEndHalf
  else none

/-- What a word boundary is followed by: the kind of boundary in braces, or anything else. Braces
that start otherwise are left alone, since they may hold the counts of a repetition. -/
def wordBoundary? (spaced : Bool) (cs : List Char) : Option (Atom × List Char) :=
  match cs with
  | '\x7b' :: rest => do
    match ← skipToMore? spaced rest with
    | c :: more =>
      if c.isAlpha || c = '-' then
        let (name, rest) := placeName spaced (more.length + 1) (c :: more)
        match rest with
        | '\x7d' :: rest => return (.anchor (← placeOf? name), rest)
        | _ => none
      else return (.anchor .wordBoundary, cs)
    | [] => none
  | cs => some (.anchor .wordBoundary, cs)

/-- What follows a backslash. -/
def escape? (spaced : Bool) : List Char → Option (Atom × List Char)
  | [] => none
  | c :: rest =>
    match c with
    | 'x' => hexEscape? spaced 2 rest
    | 'u' => hexEscape? spaced 4 rest
    | 'U' => hexEscape? spaced 8 rest
    | 'p' => property? spaced false rest
    | 'P' => property? spaced true rest
    | 'd' => some (.shorthand false .digit, rest)
    | 's' => some (.shorthand false .space, rest)
    | 'w' => some (.shorthand false .word, rest)
    | 'D' => some (.shorthand true .digit, rest)
    | 'S' => some (.shorthand true .space, rest)
    | 'W' => some (.shorthand true .word, rest)
    | 'a' => some (.literal '\x07' false, rest)
    | 'f' => some (.literal '\x0c' false, rest)
    | 't' => some (.literal '\t' false, rest)
    | 'n' => some (.literal '\n' false, rest)
    | 'r' => some (.literal '\r' false, rest)
    | 'v' => some (.literal '\x0b' false, rest)
    | 'A' => some (.anchor .startText, rest)
    | 'z' => some (.anchor .endText, rest)
    | 'b' => wordBoundary? spaced rest
    | 'B' => some (.anchor .notWordBoundary, rest)
    | '<' => some (.anchor .wordStart, rest)
    | '>' => some (.anchor .wordEnd, rest)
    | c => if isEscapable c then some (.literal c false, rest) else none

/-- One more than the largest count of a repetition. -/
def countLimit : Nat := UInt32.size

/-- Digits with their value, and what follows them. -/
def digits (spaced : Bool) : (steps : Nat) → (value : Option Nat) → List Char →
    Option Nat × List Char
  | 0, value, cs => (value, cs)
  | steps + 1, value, c :: rest =>
    if c.isDigit then
      digits spaced steps (some (value.getD 0 * 10 + (c.toNat - '0'.toNat))) (skip spaced rest)
    else (value, c :: rest)
  | _ + 1, value, [] => (value, [])

/-- White space, each character of it followed by what means nothing. -/
def afterWhite (spaced : Bool) : (steps : Nat) → List Char → List Char
  | 0, cs => cs
  | steps + 1, c :: rest =>
    if Text.isBlank c then afterWhite spaced steps (skip spaced rest) else c :: rest
  | _ + 1, [] => []

/-- A count with white space around it; the count is missing when there are no digits, or when it
is too large. -/
def count (spaced : Bool) (cs : List Char) : Option Nat × List Char :=
  let (value, rest) := digits spaced (cs.length + 1) none (cs.dropWhile Text.isBlank)
  (value.filter (· < countLimit), afterWhite spaced (rest.length + 1) rest)

/-- The counts of a repetition after the opening brace: `n`, `n,` or `n,m`. -/
def counts? (spaced : Bool) (cs : List Char) : Option (Nat × Option Nat × List Char) := do
  let (least, rest) := count spaced (← skipToMore? spaced cs)
  match rest with
  | '\x7d' :: rest => return (← least, some (← least), rest)
  | ',' :: rest =>
    match ← skipToMore? spaced rest with
    | '\x7d' :: rest => return (← least, none, rest)
    | cs =>
      let least ← least
      let (most, rest) := count spaced cs
      let most ← most
      match rest with
      | '\x7d' :: rest => if least ≤ most then return (least, some most, rest) else none
      | _ => none
  | _ => none

end RegexReader

end GuidedDecoding
