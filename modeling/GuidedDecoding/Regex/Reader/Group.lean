import GuidedDecoding.Regex.Reader.Lexical

/-!
# Groups and flags as they are written
-/

namespace GuidedDecoding

namespace RegexReader

/-- The flag of a letter. -/
def flag? : Char → Option RegexFlag
  | 'i' => some .ignoreCase
  | 'm' => some .multiLine
  | 's' => some .dotAll
  | 'U' => some .swapGreed
  | 'u' => some .unicode
  | 'R' => some .crlf
  | 'x' => some .ignoreSpace
  | _ => none

/-- Flags up to a colon or a closing parenthesis: the flags before a sign of negation are turned on
and those after it off. No flag may be given twice, and something has to follow the sign. -/
def flags? : (seen : List RegexFlag) → (negated dangling : Bool) → List Char →
    Option (FlagChange × Char × List Char)
  | _, _, _, [] => none
  | seen, negated, dangling, c :: rest =>
    if c = ':' || c = ')' then
      if dangling then none else some ([], c, rest)
    else if c = '-' then
      if negated then none else flags? seen true true rest
    else do
      let flag ← flag? c
      if seen.contains flag then none
      else
        let (change, close, rest) ← flags? (flag :: seen) negated false rest
        return ((flag, !negated) :: change, close, rest)

/-- Whether a character may stand in the name of a group. -/
def isNameChar (first : Bool) (c : Char) : Bool :=
  c == '_' || (if first then Text.isAlphabetic c
    else c == '.' || c == '[' || c == ']' || Text.isAlphanumeric c)

/-- The name of a group up to the closing angle bracket. -/
def groupName? (cs : List Char) : Option (List Char × List Char) :=
  let name := cs.takeWhile (· ≠ '>')
  match name, cs.dropWhile (· ≠ '>') with
  | first :: others, _ :: rest =>
    if isNameChar true first && others.all (isNameChar false) then some (name, rest) else none
  | _, _ => none

/-- What an opening parenthesis starts: a change of flags that stands by itself, or a group, which
may have a name or change flags within it. -/
inductive Opening where
  | flags (change : FlagChange)
  | group (name : Option (List Char)) (change : FlagChange)

/-- Conditions on what surrounds a place are not supported. -/
def isLookAround (cs : List Char) : Bool :=
  [['?', '='], ['?', '!'], ['?', '<', '='], ['?', '<', '!']].any fun lead => lead.isPrefixOf cs

/-- What follows a question mark at the head of a group. -/
def flagGroup? (cs : List Char) : Option (Opening × List Char) := do
  let (change, close, rest) ← flags? [] false false cs
  if close = ':' then return (.group none change, rest)
  else if change.isEmpty then none
  else return (.flags change, rest)

/-- What follows an opening parenthesis. -/
def opening? (spaced : Bool) (cs : List Char) : Option (Opening × List Char) :=
  let cs := skip spaced cs
  if isLookAround cs then none
  else
    match (dropLead? ['?', 'P', '<'] cs).or (dropLead? ['?', '<'] cs), cs with
    | some named, _ => (groupName? named).map fun r => (.group (some r.1) [], r.2)
    | none, '?' :: rest => flagGroup? rest
    | none, cs => some (.group none [], cs)

end RegexReader

end GuidedDecoding
