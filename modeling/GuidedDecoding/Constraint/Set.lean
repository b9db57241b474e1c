import GuidedDecoding.Constraint.Codec
import GuidedDecoding.Error.Compile
import GuidedDecoding.Fingerprint

/-!
# Sets of constraints

A set holds its members in increasing order of their ids, each id once, so nothing that is
computed from it depends on the order in which the members came. A record that is already there
is taken as the same; another record under its id is an error, since keeping either of the two
would depend on their order.

The fingerprint of a set hashes `ConstraintSet.content`: a tag, and then for each member the
length of its written form and the written form itself.
-/

namespace GuidedDecoding

/-- Constraints in increasing order of their ids. -/
structure ConstraintSet where
  members : List Constraint
  sorted : (members.map Constraint.id).Pairwise (· < ·)

namespace ConstraintSet

theorem sorted_nil : (([] : List Constraint).map Constraint.id).Pairwise (· < ·) := .nil

/-- The set without members. -/
def empty : ConstraintSet := ⟨[], sorted_nil⟩

/-- The member of an id. -/
def get? (s : ConstraintSet) (id : String) : Option Constraint :=
  s.members.find? fun c => c.id == id

/-- Whether an id has a member. -/
def contains (s : ConstraintSet) (id : String) : Bool := (s.get? id).isSome

/-- The ids of the members, in order. -/
def ids (s : ConstraintSet) : List String := s.members.map Constraint.id

/-- The number of members. -/
def size (s : ConstraintSet) : Nat := s.members.length

/-- Put a constraint in its place among constraints in order, unless its id is there already. -/
def place (c : Constraint) : List Constraint → List Constraint
  | [] => [c]
  | d :: rest =>
    if c.id < d.id then c :: d :: rest
    else if c.id = d.id then d :: rest
    else d :: place c rest

theorem mem_ids_place {c : Constraint} {z : String} {l : List Constraint} :
    z ∈ (place c l).map Constraint.id ↔ z = c.id ∨ z ∈ l.map Constraint.id := by
  induction l with
  | nil => simp [place]
  | cons d rest ih =>
    unfold place
    split
    · simp
    · split
      · next h => simp [h]
      · simp only [List.map_cons, List.mem_cons, ih, or_left_comm]

theorem sorted_place {c : Constraint} {l : List Constraint}
    (h : (l.map Constraint.id).Pairwise (· < ·)) :
    ((place c l).map Constraint.id).Pairwise (· < ·) := by
  induction l with
  | nil => simp [place]
  | cons d rest ih =>
    obtain ⟨above, tail⟩ := List.pairwise_cons.1 h
    unfold place
    split
    · next lt =>
      refine List.pairwise_cons.2 ⟨fun z hz => ?_, h⟩
      rcases List.mem_cons.1 hz with rfl | hz
      · exact lt
      · exact String.lt_trans lt (above z hz)
    · next not_lt =>
      split
      · exact h
      · next ne =>
        refine List.pairwise_cons.2 ⟨fun z hz => ?_, ih tail⟩
        rcases mem_ids_place.1 hz with rfl | hz
        · exact Std.lt_of_le_of_ne (String.not_lt.1 not_lt) (Ne.symm ne)
        · exact above z hz

/-- The set with a constraint, and whether the constraint is new. -/
def insert (s : ConstraintSet) (c : Constraint) : Except CompileError (ConstraintSet × Bool) :=
  match s.get? c.id with
  | some member =>
    if member.sameAs c then .ok (s, false)
    else .error (.invalidConstraint c.id "duplicate id with a different definition")
  | none => .ok (⟨place c s.members, sorted_place s.sorted⟩, true)

/-- The set of some records. -/
def ofRecords (records : List Constraint) : Except CompileError ConstraintSet :=
  records.foldlM (fun s c => (s.insert c).map Prod.fst) empty

/-- What stands for the id of a constraint while nothing could be read. -/
def inputName : String := "<input>"

/-- The records of a list in text form. -/
def recordsOfText (text : String) : Except CompileError (List Constraint) :=
  match (Json.parse text).bind (Json.list? Constraint.ofJson?) with
  | some records => .ok records
  | none =>
    .error (.invalidConstraint inputName "malformed constraint record list: not a list of records")

/-- The set of a list of records in text form. -/
def parse (text : String) : Except CompileError ConstraintSet := recordsOfText text >>= ofRecords

/-- What tells the fingerprint of a set from other hashes. -/
def contentTag : String := "tether.constraint-set.v1"

/-- The bytes that the fingerprint hashes. -/
def content (s : ConstraintSet) : List UInt8 :=
  Fingerprint.utf8 contentTag ++ s.members.flatMap fun c =>
    let bytes := Fingerprint.utf8 c.text
    Fingerprint.lengthBytes bytes.length ++ bytes

/-- The name of the content of a set. -/
def fingerprint (s : ConstraintSet) : Fingerprint := .ofContent s.content

def toJson (s : ConstraintSet) : Json := .arr (s.members.map Constraint.toJson)

def ofJson? (doc : Json) : Option ConstraintSet :=
  (doc.list? Constraint.ofJson?).bind fun records => (ofRecords records).toOption

end ConstraintSet

end GuidedDecoding
