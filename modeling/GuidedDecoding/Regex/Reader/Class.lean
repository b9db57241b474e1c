import GuidedDecoding.Regex.Reader.Lexical

/-!
# Classes of characters as they are written

A class stands in brackets and may hold classes itself, joined to their neighbours or combined
with them by an operation. The reader keeps a stack of the brackets and operations whose right-hand
sides are still open.
-/

namespace GuidedDecoding

namespace RegexReader

/-- What is still open around the parts that are being read: a bracket, with the parts before it,
or an operation, with its left-hand side. -/
inductive ClassFrame where
  | bracket (before : List ClassItem) (negated : Bool)
  | operation (op : SetOperation) (lhs : ClassItem)

/-- The parts that were read last come first. -/
structure ClassState where
  parts : List ClassItem
  frames : List ClassFrame
  rest : List Char

/-- Hyphens at the head of a class stand for themselves. -/
def leadingHyphens? (spaced : Bool) : (steps : Nat) → List ClassItem → List Char →
    Option (List ClassItem × List Char)
  | 0, _, _ => none
  | steps + 1, parts, '-' :: rest => do
    leadingHyphens? spaced steps (.atom (.literal '-' false) :: parts) (← skipToMore? spaced rest)
  | _ + 1, parts, cs => some (parts, cs)

/-- Whether a sign of negation stands at the head of a class. -/
def classSign? (spaced : Bool) (cs : List Char) : Option (Bool × List Char) := do
  match ← skipToMore? spaced cs with
  | '^' :: rest => return (true, ← skipToMore? spaced rest)
  | cs => return (false, cs)

/-- The hyphens at the head of a class, or a closing bracket that stands for itself. -/
def classLead? (spaced : Bool) (cs : List Char) : Option (List ClassItem × List Char) := do
  match ← leadingHyphens? spaced (cs.length + 1) [] cs with
  | ([], ']' :: rest) => return ([.atom (.literal ']' false)], ← skipToMore? spaced rest)
  | lead => return lead

/-- What follows an opening bracket. -/
def openClass? (spaced : Bool) (cs : List Char) : Option (Bool × List ClassItem × List Char) := do
  let (negated, cs) ← classSign? spaced cs
  let (parts, rest) ← classLead? spaced cs
  return (negated, parts, rest)

/-- The names of ASCII classes. -/
def asciiClassNames : List String :=
  ["alnum", "alpha", "ascii", "blank", "cntrl", "digit", "graph", "lower", "print", "punct",
    "space", "upper", "word", "xdigit"]

/-- The name of an ASCII class up to `:]`. -/
def asciiClassName? (negated : Bool) (cs : List Char) : Option (ClassItem × List Char) := do
  let name := cs.takeWhile (· ≠ ':')
  let rest ← dropLead? [':', ']'] (cs.dropWhile (· ≠ ':'))
  if asciiClassNames.contains (String.ofList name) then return (.named negated name, rest) else none

/-- An ASCII class between `[:` and `:]`. -/
def asciiClass? (cs : List Char) : Option (ClassItem × List Char) := do
  match ← dropLead? ['[', ':'] cs with
  | '^' :: rest => asciiClassName? true rest
  | cs => asciiClassName? false cs

/-- One character of a class, or what an escape stands for. -/
def classAtom? (spaced : Bool) : List Char → Option (Atom × List Char)
  | '\\' :: rest => escape? spaced rest
  | c :: rest => some (.literal c false, rest)
  | [] => none

/-- Whether an atom may stand in a class. -/
def isClassAtom : Atom → Bool
  | .dot => false
  | .anchor _ => false
  | _ => true

/-- One part of a class: an atom, or a range between two literals. -/
def classPart? (spaced : Bool) (cs : List Char) : Option (ClassItem × List Char) := do
  let (first, rest) ← classAtom? spaced cs
  let alone := if isClassAtom first then some (ClassItem.atom first) else none
  match ← skipToMore? spaced rest with
  | '-' :: after =>
    if peek spaced after = some ']' || peek spaced after = some '-' then
      return (← alone, '-' :: after)
    else
      let (last, rest) ← classAtom? spaced (← skipToMore? spaced after)
      match first, last with
      | .literal a x, .literal b y => if a ≤ b then return (.range a b (x || y), rest) else none
      | _, _ => none
  | rest => return (← alone, rest)

/-- The parts that were read as one, the right-hand side of what operation is open. -/
def closeOperation (parts : List ClassItem) (frames : List ClassFrame) :
    ClassItem × List ClassFrame :=
  let item := ClassItem.ofParts parts.reverse
  match frames with
  | .operation op lhs :: frames => (.operation op lhs item, frames)
  | frames => (item, frames)

/-- Start the right-hand side of an operation. -/
def openOperation (op : SetOperation) (s : ClassState) (rest : List Char) : ClassState :=
  let (lhs, frames) := closeOperation s.parts s.frames
  ⟨[], .operation op lhs :: frames, rest⟩

/-- Read the rest of a class. -/
def classBody? (spaced : Bool) : (steps : Nat) → ClassState → Option (Bool × ClassItem × List Char)
  | 0, _ => none
  | steps + 1, s =>
    match skip spaced s.rest with
    | [] => none
    | '[' :: rest =>
      match asciiClass? ('[' :: rest) with
      | some (item, rest) => classBody? spaced steps ⟨item :: s.parts, s.frames, rest⟩
      | none => do
        let (negated, parts, rest) ← openClass? spaced rest
        classBody? spaced steps ⟨parts, .bracket s.parts negated :: s.frames, rest⟩
    | ']' :: rest =>
      match closeOperation s.parts s.frames with
      | (body, [.bracket _ negated]) => some (negated, body, rest)
      | (body, .bracket before negated :: frames) =>
        classBody? spaced steps ⟨.bracketed negated body :: before, frames, rest⟩
      | _ => none
    | '&' :: '&' :: rest => classBody? spaced steps (openOperation .intersection s rest)
    | '-' :: '-' :: rest => classBody? spaced steps (openOperation .difference s rest)
    | '~' :: '~' :: rest => classBody? spaced steps (openOperation .symmetricDifference s rest)
    | cs => do
      let (item, rest) ← classPart? spaced cs
      classBody? spaced steps ⟨item :: s.parts, s.frames, rest⟩

/-- A class after its opening bracket: whether it is negated, and what stands in it. -/
def class? (spaced : Bool) (cs : List Char) : Option (Bool × ClassItem × List Char) := do
  let (negated, parts, rest) ← openClass? spaced cs
  classBody? spaced (cs.length + 1) ⟨parts, [.bracket [] negated], rest⟩

end RegexReader

end GuidedDecoding
