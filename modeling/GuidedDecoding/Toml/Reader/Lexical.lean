import GuidedDecoding.Json.Reader
import GuidedDecoding.Toml.Basic

/-!
# Blanks, comments, texts and keys

Each reader takes one thing off the front of a list of characters and answers what follows it. Line
ends are a line feed, with a carriage return in front of it or not. Other control characters than
the tab stand nowhere.
-/

namespace GuidedDecoding

namespace Toml

/-- The blanks within a line. -/
def isBlank (c : Char) : Bool := c = ' ' || c = '\t'

/-- What follows blanks. -/
def skipBlank (s : List Char) : List Char := s.dropWhile isBlank

/-- Whether a character may stand in a comment or a text as it is. -/
def isPlain (c : Char) : Bool := c = '\t' || (0x20 ≤ c.toNat && c.toNat ≠ 0x7F)

/-- What follows one line end. -/
def lineEnd? : List Char → Option (List Char)
  | '\n' :: s => some s
  | '\r' :: '\n' :: s => some s
  | _ => none

/-- What follows a comment, if there is one. -/
def skipComment : List Char → List Char
  | '#' :: s => s.dropWhile isPlain
  | s => s

/-- What follows the rest of a line that holds nothing but blanks and a comment. -/
def restOfLine? (s : List Char) : Option (List Char) :=
  match skipComment (skipBlank s) with
  | [] => some []
  | s => lineEnd? s

/-- What follows blanks, line ends and whole comments. -/
def skipLines : (fuel : Nat) → List Char → Option (List Char)
  | 0, _ => none
  | fuel + 1, s =>
    match skipBlank s with
    | '#' :: s => (lineEnd? (s.dropWhile isPlain)).bind (skipLines fuel)
    | '\n' :: s => skipLines fuel s
    | '\r' :: s => (lineEnd? ('\r' :: s)).bind (skipLines fuel)
    | s => some s

/-- Whether a character may stand in a key without quotes. -/
def isBare (c : Char) : Bool := c.isAlphanum || c = '-' || c = '_'

/-- The character that some hexadecimal digits stand for. -/
def numbered? (digits : List Char) : Option Char := do
  let n ← digits.foldlM (fun n d => (Json.hexValue? d).map (n * 16 + ·)) 0
  if n < 0xD800 ∨ 0xDFFF < n ∧ n < 0x110000 then some (.ofNat n) else none

/-- The character of a backslash escape, given what follows the backslash. -/
def escape? : List Char → Option (Char × List Char)
  | 'b' :: s => some ('\x08', s)
  | 't' :: s => some ('\t', s)
  | 'n' :: s => some ('\n', s)
  | 'f' :: s => some ('\x0c', s)
  | 'r' :: s => some ('\r', s)
  | '"' :: s => some ('"', s)
  | '\\' :: s => some ('\\', s)
  | 'u' :: s => if s.length < 4 then none else (numbered? (s.take 4)).map (·, s.drop 4)
  | 'U' :: s => if s.length < 8 then none else (numbered? (s.take 8)).map (·, s.drop 8)
  | _ => none

/-- The rest of a text between quotes on one line. A backslash escapes if `escapes`. -/
def lineText (quote : Char) (escapes : Bool) : (fuel : Nat) → List Char →
    Option (List Char × List Char)
  | 0, _ => none
  | _ + 1, [] => none
  | fuel + 1, c :: s =>
    if c = quote then some ([], s)
    else if c = '\\' ∧ escapes then do
      let (e, s) ← escape? s
      let (text, s) ← lineText quote escapes fuel s
      return (e :: text, s)
    else if isPlain c then do
      let (text, s) ← lineText quote escapes fuel s
      return (c :: text, s)
    else none

/-- What follows blanks and line ends. -/
def skipBlankLines : List Char → List Char
  | [] => []
  | '\n' :: s => skipBlankLines s
  | '\r' :: '\n' :: s => skipBlankLines s
  | c :: s => if isBlank c then skipBlankLines s else c :: s

/-- What follows a backslash at the end of a line: the next line that is not blank. -/
def continued? (s : List Char) : Option (List Char) := (lineEnd? (skipBlank s)).map skipBlankLines

/-- What follows the closing quotes of a text of several lines. Up to two further quotes are part
of the text. -/
def closed? (quote : Char) (s : List Char) : Option (List Char) :=
  let quotes := (s.takeWhile (· = quote)).length
  if 3 ≤ quotes then some (s.drop (min quotes 5)) else none

/-- What follows the rest of a text of several lines. A backslash escapes if `escapes`. -/
def linesText (quote : Char) (escapes : Bool) : (fuel : Nat) → List Char → Option (List Char)
  | 0, _ => none
  | _ + 1, [] => none
  | fuel + 1, c :: s =>
    match closed? quote (c :: s) with
    | some s => some s
    | none =>
      if c = '\\' ∧ escapes then
        match continued? s with
        | some s => linesText quote escapes fuel s
        | none => (escape? s).bind fun e => linesText quote escapes fuel e.2
      else if isPlain c then linesText quote escapes fuel s
      else (lineEnd? (c :: s)).bind (linesText quote escapes fuel)

/-- What follows a text in quotes. -/
def text? (s : List Char) : Option (List Char) :=
  match s with
  | '"' :: '"' :: '"' :: s => linesText '"' true (s.length + 1) s
  | '\'' :: '\'' :: '\'' :: s => linesText '\'' false (s.length + 1) s
  | '"' :: s => (lineText '"' true (s.length + 1) s).map Prod.snd
  | '\'' :: s => (lineText '\'' false (s.length + 1) s).map Prod.snd
  | _ => none

/-- One name of a key. -/
def name? (s : List Char) : Option (String × List Char) :=
  match s with
  | '"' :: s => (lineText '"' true (s.length + 1) s).map fun (text, s) => (String.ofList text, s)
  | '\'' :: s => (lineText '\'' false (s.length + 1) s).map fun (text, s) => (String.ofList text, s)
  | s =>
    let bare := s.takeWhile isBare
    if bare.isEmpty then none else some (String.ofList bare, s.dropWhile isBare)

/-- The names of a dotted key, with blanks around each. -/
def names? : (fuel : Nat) → List Char → Option (List String × List Char)
  | 0, _ => none
  | fuel + 1, s => do
    let (name, s) ← name? (skipBlank s)
    match skipBlank s with
    | '.' :: s =>
      let (rest, s) ← names? fuel s
      return (name :: rest, s)
    | s => return ([name], s)

/-- Things may be nested less deep than this. -/
def depthLimit : Nat := 80

/-- A dotted key. -/
def key? (s : List Char) : Option (List String × List Char) :=
  (names? (s.length + 1) s).filter fun r => r.1.length < depthLimit

end Toml

end GuidedDecoding
