import GuidedDecoding.Artifact.Timestamp
import GuidedDecoding.Decimal.Read
import GuidedDecoding.Json.Reader
import GuidedDecoding.Toml.Basic

/-!
# Numbers and points in time

What begins with a sign or a digit is a date or a time if it begins like one, a number with a
fraction or an exponent if it goes on like one, and an integer otherwise. Once it is clear what is
read, a fault makes the whole unreadable. Single underscores may stand between digits.
-/

namespace GuidedDecoding

namespace Toml

/-- Digits of some kind with single underscores between them, and what follows them. An underscore
that no digit follows is a fault. -/
def moreDigits (isDigit : Char → Bool) : List Char → Option (List Char × List Char)
  | '_' :: c :: s =>
    if isDigit c then (moreDigits isDigit s).map fun (ds, s) => (c :: ds, s) else none
  | ['_'] => none
  | c :: s =>
    if isDigit c then (moreDigits isDigit s).map fun (ds, s) => (c :: ds, s)
    else some ([], c :: s)
  | [] => some ([], [])

/-- Digits of some kind, at least one. -/
def digits? (isDigit : Char → Bool) : List Char → Option (List Char × List Char)
  | c :: s => if isDigit c then (moreDigits isDigit s).map fun (ds, s) => (c :: ds, s) else none
  | [] => none

/-- The value of digits in a base. -/
def valueOf (base : Nat) (digits : List Char) : Nat :=
  digits.foldl (fun n d => n * base + (Json.hexValue? d).getD 0) 0

/-- The sign in front, if there is one. -/
def sign : List Char → Bool × List Char
  | '-' :: s => (true, s)
  | '+' :: s => (false, s)
  | s => (false, s)

/-- An integer within 64 bits with a sign. -/
def bounded? (n : Int) : Option Value :=
  if -0x8000000000000000 ≤ n ∧ n < 0x8000000000000000 then some (.integer n) else none

/-- The digits of an integer: a zero stands alone. -/
def wholeDigits? : List Char → Option (List Char × List Char)
  | '0' :: s => some (['0'], s)
  | s => digits? Char.isDigit s

/-- What follows an exponent, and the exponent without underscores; nothing if there is none. -/
def exponent? : List Char → Option (List Char × List Char)
  | c :: s =>
    if c = 'e' ∨ c = 'E' then
      let (minus, s) := sign s
      (digits? Char.isDigit s).map fun (ds, s) => ('e' :: (if minus then ['-'] else []) ++ ds, s)
    else some ([], c :: s)
  | [] => some ([], [])

/-- A number with a fraction or an exponent is not too large for a double. -/
def decimal? (minus : Bool) (written : List Char) : Option Value :=
  match Decimal.magnitude? written with
  | some x => if x == 1.0 / 0.0 ∧ !minus then none else some .decimal
  | none => none

/-- A number in decimal digits, after its sign. -/
def unsigned? (minus : Bool) (s : List Char) : Option (Value × List Char) := do
  let (whole, s) ← wholeDigits? s
  match s with
  | '.' :: s =>
    let (fraction, s) ← digits? Char.isDigit s
    let (exponent, s) ← exponent? s
    return (← decimal? minus (whole ++ '.' :: fraction ++ exponent), s)
  | s =>
    let (exponent, s) ← exponent? s
    if exponent.isEmpty then
      let n := valueOf 10 whole
      return (← bounded? (if minus then -n else n), s)
    else return (← decimal? minus (whole ++ exponent), s)

/-- An integer in another base, after its mark. -/
def based? (base : Nat) (s : List Char) : Option (Value × List Char) := do
  let (ds, s) ← digits? (fun c => (Json.hexValue? c).any (· < base)) s
  return (← bounded? (valueOf base ds), s)

/-- A number. -/
def number? (s : List Char) : Option (Value × List Char) :=
  match s with
  | '0' :: 'x' :: s => based? 16 s
  | '0' :: 'o' :: s => based? 8 s
  | '0' :: 'b' :: s => based? 2 s
  | s =>
    match sign s with
    | (_, 'i' :: 'n' :: 'f' :: s) => some (.decimal, s)
    | (_, 'n' :: 'a' :: 'n' :: s) => some (.decimal, s)
    | (minus, s) => unsigned? minus s

/-- Two digits within a range. -/
def two? (low high : Nat) : List Char → Option (Nat × List Char)
  | a :: b :: s =>
    let n := valueOf 10 [a, b]
    if a.isDigit ∧ b.isDigit ∧ low ≤ n ∧ n ≤ high then some (n, s) else none
  | _ => none

/-- What follows a mark. -/
def mark? (mark : Char) : List Char → Option (List Char)
  | c :: s => if c = mark then some s else none
  | [] => none

/-- What follows the minutes of a time, its seconds and their fraction. -/
def afterMinutes? (s : List Char) : Option (List Char) := do
  let (_, s) ← two? 0 59 s
  let (_, s) ← two? 0 60 (← mark? ':' s)
  match s with
  | '.' :: s => if (s.takeWhile Char.isDigit).isEmpty then none else some (s.dropWhile Char.isDigit)
  | s => some s

/-- What follows an offset from universal time, if there is one. -/
def afterOffset? : List Char → Option (List Char)
  | [] => some []
  | c :: s =>
    if c = 'Z' ∨ c = 'z' then some s
    else if c = '+' ∨ c = '-' then do
      let (_, s) ← two? 0 23 s
      let (_, s) ← two? 0 59 (← mark? ':' s)
      some s
    else some (c :: s)

/-- What follows an hour and a colon, where a text begins with them. -/
def afterHour? (s : List Char) : Option (List Char) := do mark? ':' (← two? 0 23 s).2

/-- What follows the time and the offset after a date, if there are any. -/
def afterDate? : List Char → Option (List Char)
  | [] => some []
  | c :: s =>
    if c = 'T' ∨ c = 't' ∨ c = ' ' then
      match afterHour? s with
      | some s => (afterMinutes? s).bind afterOffset?
      | none => some (c :: s)
    else some (c :: s)

/-- A month and a day after a year. -/
def afterYear? (year : Nat) (s : List Char) : Option (List Char) := do
  let (month, s) ← two? 1 12 s
  let (day, s) ← two? 1 31 (← mark? '-' s)
  if day ≤ Timestamp.daysIn year month then afterDate? s else none

/-- A number, a date or a time. -/
def numberOrMoment? (s : List Char) : Option (Value × List Char) :=
  match s with
  | a :: b :: c :: d :: '-' :: rest =>
    if [a, b, c, d].all Char.isDigit then
      (afterYear? (valueOf 10 [a, b, c, d]) rest).map (.moment, ·)
    else number? s
  | s =>
    match afterHour? s with
    | some rest => (afterMinutes? rest).map (.moment, ·)
    | none => number? s

end Toml

end GuidedDecoding
