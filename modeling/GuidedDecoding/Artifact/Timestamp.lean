import GuidedDecoding.Text.Blank

/-!
# Timestamps

An artifact that was stored carries the time at which it was compiled. The time itself is of no
use here, but a text that is no time is an error: a date, a mark, a time of day and an offset from
universal time, all within their ranges, with white space allowed in most places between the
parts.

Each part is recognised by a function that returns its value and what follows it.
-/

namespace GuidedDecoding

namespace Timestamp

/-- The value of up to `most` digits, and what follows them. -/
def number? (most : Nat) (cs : List Char) : Option (Nat × List Char) :=
  let digits := (cs.takeWhile Char.isDigit).take most
  if digits.isEmpty then none
  else some (digits.foldl (fun n c => n * 10 + (c.toNat - '0'.toNat)) 0, cs.drop digits.length)

/-- A number of at most two digits within a range, after white space. -/
def part? (low high : Nat) (cs : List Char) : Option (Nat × List Char) :=
  (number? 2 (Text.trimmed cs)).filter fun r => low ≤ r.1 && r.1 ≤ high

/-- What follows a mark, with white space around it. -/
def mark? (mark : Char) (cs : List Char) : Option (List Char) :=
  match Text.trimmed cs with
  | c :: rest => if c = mark then some rest else none
  | [] => none

/-- A year: at most four digits, or more after a sign. -/
def year? (cs : List Char) : Option (Int × List Char) :=
  match Text.trimmed cs with
  | '-' :: rest => (number? rest.length rest).map fun (n, r) => (-(n : Int), r)
  | '+' :: rest => (number? rest.length rest).map fun (n, r) => ((n : Int), r)
  | cs => (number? 4 cs).map fun (n, r) => ((n : Int), r)

/-- The first and the last year of the calendar. -/
def firstYear : Int := -262143
def lastYear : Int := 262142

def isLeap (year : Int) : Bool := year % 4 == 0 && (year % 100 != 0 || year % 400 == 0)

/-- The number of days in a month. -/
def daysIn (year : Int) (month : Nat) : Nat :=
  if month == 2 then (if isLeap year then 29 else 28)
  else if month == 4 || month == 6 || month == 9 || month == 11 then 30
  else 31

/-- What follows a date of the calendar. -/
def afterDate? (cs : List Char) : Option (List Char) := do
  let (year, cs) ← year? cs
  let (month, cs) ← part? 1 12 (← mark? '-' cs)
  let (day, cs) ← part? 1 31 (← mark? '-' cs)
  if firstYear ≤ year ∧ year ≤ lastYear ∧ day ≤ daysIn year month then some cs else none

/-- What follows the mark between the date and the time. -/
def afterJoint? : List Char → Option (List Char)
  | 'T' :: rest => some rest
  | 't' :: rest => some rest
  | ' ' :: rest => some rest
  | _ => none

/-- What follows an optional fraction of a second. -/
def afterFraction? : List Char → Option (List Char)
  | '.' :: rest => if (rest.head?.map Char.isDigit) == some true
      then some (rest.dropWhile Char.isDigit) else none
  | cs => some cs

/-- What follows a time of day; a minute may have a leap second. -/
def afterTime? (cs : List Char) : Option (List Char) := do
  let (_, cs) ← part? 0 23 cs
  let (_, cs) ← part? 0 59 (← mark? ':' cs)
  let (_, cs) ← part? 0 60 (← mark? ':' cs)
  return Text.trimmed (← afterFraction? cs)

/-- What follows two digits of which the first is at most `most`, and their value. -/
def pair? (most : Char) : List Char → Option (Nat × List Char)
  | a :: b :: rest =>
    if a.isDigit && b.isDigit && a ≤ most then
      some ((a.toNat - '0'.toNat) * 10 + (b.toNat - '0'.toNat), rest)
    else none
  | _ => none

/-- What follows the hours and minutes of an offset of less than a day. -/
def afterHours? (cs : List Char) : Option (List Char) := do
  let (hours, cs) ← pair? '9' cs
  let (_, cs) ← pair? '5' (cs.dropWhile fun c => c == ':' || Text.isBlank c)
  if hours < 24 then some cs else none

/-- What follows an offset from universal time. -/
def afterOffset? : List Char → Option (List Char)
  | 'Z' :: rest => some rest
  | 'z' :: rest => some rest
  | '+' :: rest => afterHours? rest
  | '-' :: rest => afterHours? rest
  | '−' :: rest => afterHours? rest
  | a :: b :: c :: rest =>
    if String.ofList [a.toUpper, b.toUpper, c.toUpper] == "UTC" then some rest else none
  | _ => none

/-- Whether a text is a point in time. -/
def isTimestamp (text : String) : Bool :=
  match ((afterDate? text.toList).bind afterJoint?).bind afterTime? |>.bind afterOffset? with
  | some rest => Text.trimmed rest == []
  | none => false

end Timestamp

end GuidedDecoding
