import GuidedDecoding.Regex.Reader.Class
import GuidedDecoding.Regex.Reader.Group

/-!
# Reading regular expressions

`RegexReader.step?` reads one piece of an expression: an atom, a class, a repetition of what was
read last, or a parenthesis or bar, which open and close groups and alternatives. Between the steps
a stack holds the groups that are still open.
-/

namespace GuidedDecoding

namespace RegexReader

/-- What is still open around the row that is being read: a group, with the row before it and
whether white space meant nothing there, or the alternatives that are complete. The latest item of
a row or alternative comes first. -/
inductive Frame where
  | group (before : List Written) (change : FlagChange) (spaced : Bool)
  | choice (branches : List Written)

/-- A reader in the middle of an expression. -/
structure State where
  row : List Written
  frames : List Frame
  names : List (List Char)
  spaced : Bool
  rest : List Char

/-- How a change of flags sets a flag, if it does. -/
def setting? (flag : RegexFlag) (change : FlagChange) : Option Bool :=
  (change.find? fun c => c.1 = flag).map Prod.snd

/-- The row that was read as one expression. -/
def State.rowSoFar (s : State) : Written := .ofRow s.row.reverse

/-- What the innermost open group holds so far, and the frames from that group on. -/
def closeChoice (s : State) : Written × List Frame :=
  match s.frames with
  | .choice branches :: frames => (.choice (s.rowSoFar :: branches).reverse, frames)
  | frames => (s.rowSoFar, frames)

/-- Whether a question mark, which asks for the shortest match, stands at the head. -/
def afterLazy : List Char → List Char
  | '?' :: rest => rest
  | cs => cs

/-- Repeat what was read last. -/
def repeated? (s : State) (least : Nat) (most : Option Nat) (rest : List Char) : Option State :=
  match s.row with
  | item :: before =>
    if item.isRepeatable then
      some { s with row := .repetition least most item :: before, rest := afterLazy rest }
    else none
  | [] => none

/-- Open a group, or change flags in the one that is open. -/
def open? (s : State) (rest : List Char) : Option State := do
  match ← opening? s.spaced rest with
  | (.flags change, rest) =>
    return { s with
      row := .flags change :: s.row
      spaced := (setting? .ignoreSpace change).getD s.spaced
      rest }
  | (.group name change, rest) =>
    if name.any s.names.contains then none
    else return {
      row := []
      frames := .group s.row change s.spaced :: s.frames
      names := name.toList ++ s.names
      spaced := (setting? .ignoreSpace change).getD s.spaced
      rest }

/-- Close the innermost open group. -/
def close? (s : State) (rest : List Char) : Option State :=
  match closeChoice s with
  | (body, .group before change spaced :: frames) =>
    some { s with row := .group change body :: before, frames, spaced, rest }
  | _ => none

/-- Complete an alternative. -/
def separate (s : State) (rest : List Char) : State :=
  match s.frames with
  | .choice branches :: frames =>
    { s with row := [], frames := .choice (s.rowSoFar :: branches) :: frames, rest }
  | frames => { s with row := [], frames := .choice [s.rowSoFar] :: frames, rest }

/-- Add an item to the row. -/
def State.push (s : State) (item : Written) (rest : List Char) : State :=
  { s with row := item :: s.row, rest }

/-- Read what starts with a character. -/
def step? (s : State) (c : Char) (rest : List Char) : Option State :=
  match c with
  | '(' => open? s rest
  | ')' => close? s rest
  | '|' => some (separate s rest)
  | '[' => (class? s.spaced rest).map fun (negated, body, rest) =>
      s.push (.bracketed negated body) rest
  | '?' => repeated? s 0 (some 1) rest
  | '*' => repeated? s 0 none rest
  | '+' => repeated? s 1 none rest
  | '\x7b' => (counts? s.spaced rest).bind fun (least, most, rest) =>
      repeated? s least most (skip s.spaced rest)
  | '\\' => (escape? s.spaced rest).map fun (atom, rest) => s.push (.atom atom) rest
  | '.' => some (s.push (.atom .dot) rest)
  | '^' => some (s.push (.atom (.anchor .startLine)) rest)
  | '$' => some (s.push (.atom (.anchor .endLine)) rest)
  | c => some (s.push (.atom (.literal c false)) rest)

/-- The expression that was read, if no group is open. -/
def finish? (s : State) : Option Written :=
  match closeChoice s with
  | (body, []) => some body
  | _ => none

/-- Read to the end. Each step takes at least one character. -/
def run? : (steps : Nat) → State → Option Written
  | 0, _ => none
  | steps + 1, s =>
    match skip s.spaced s.rest with
    | [] => finish? s
    | c :: rest => (step? s c rest).bind (run? steps)

/-- How deep an expression may nest. -/
def depthLimit : Nat := 250

end RegexReader

/-- The expression that a text is, unless it nests too deep. -/
def Written.parse (cs : List Char) : Option Written :=
  (RegexReader.run? (cs.length + 1) ⟨[], [], [], false, cs⟩).filter fun w =>
    w.depth ≤ RegexReader.depthLimit

end GuidedDecoding
