import GuidedDecoding.Regex.Basic

/-!
# Matching

Places in a text are numbered from zero to its length. `Regex.advance` takes a set of places, as an
increasing list, to the set of places where a stretch that starts at one of them may end. All
places are followed at once, so the work does not grow with the number of ways to match.
-/

namespace GuidedDecoding

/-- The members of two increasing lists in one. -/
def Places.merge : List Nat → List Nat → List Nat
  | [], ys => ys
  | x :: xs, ys => mergeInto x xs (merge xs) ys
where
  /-- Merge a list that is not empty, given how to merge what is behind its head. -/
  mergeInto (x : Nat) (xs : List Nat) (mergeRest : List Nat → List Nat) : List Nat → List Nat
    | [] => x :: xs
    | y :: ys =>
      if x < y then x :: mergeRest (y :: ys)
      else if x = y then x :: mergeRest ys
      else y :: mergeInto x xs mergeRest ys

/-- What is in the first increasing list but not in the second. -/
def Places.without (xs ys : List Nat) : List Nat := xs.filter fun x => !ys.contains x

namespace Regex

/-- Take a step a number of times, unless nothing changes any more. -/
def stepTimes (step : List Nat → List Nat) : Nat → List Nat → List Nat
  | 0, places => places
  | n + 1, places =>
    let next := step places
    if next = places then places else stepTimes step n next

/-- Everything reached in at most a number of steps: what was reached before, and what the latest
places lead to. -/
def reach (step : List Nat → List Nat) : Nat → (reached latest : List Nat) → List Nat
  | 0, reached, _ => reached
  | n + 1, reached, latest =>
    let fresh := Places.without (step latest) reached
    if fresh.isEmpty then reached else reach step n (Places.merge reached fresh) fresh

/-- The places where stretches from the given places may end. -/
def advance (text : List Char) : Regex → List Nat → List Nat
  | .empty, places => places
  | .set s, places =>
    places.filterMap fun i =>
      match text[i]? with
      | some c => if s.contains c then some (i + 1) else none
      | none => none
  | .look l, places => places.filter (l.holdsAt text)
  | .seq r s, places => s.advance text (r.advance text places)
  | .alt r s, places => Places.merge (r.advance text places) (s.advance text places)
  | .loop least most r, places =>
    let start := stepTimes (r.advance text) least places
    let more := match most with
      | none => text.length + 1
      | some most => min (most - least) (text.length + 1)
    reach (r.advance text) more start start

/-- Whether some stretch of a text is described by the expression. -/
def isMatch (r : Regex) (text : String) : Bool :=
  !(r.advance text.toList (List.range (text.toList.length + 1))).isEmpty

end Regex

end GuidedDecoding
