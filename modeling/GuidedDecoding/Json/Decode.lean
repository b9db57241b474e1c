import GuidedDecoding.Json.Number

/-!
# Taking documents apart

A record is an object, or an array of its fields in their declared order whose last fields may
be missing. A field may have several names but may be given only once, and fields that the record
does not have are passed over.

A tagged value is a record whose tag says which of several records it is. Within such a value the
form is looser: a tag may also be the position of the variant, and a name may also be given as
`{name: {}}`. Tagged values are therefore read as a whole, so nothing in them may be unreadable.
The flag `loose` says that a document stands within a tagged value.
-/

namespace GuidedDecoding

namespace Json

mutual

/-- Whether every part of the document can be read, also where nobody looks at it. -/
def readable : Json → Bool
  | .num n => n.magnitude?.isSome
  | .arr items => itemsReadable items
  | .obj fields => fieldsReadable fields
  | .unreadable => false
  | _ => true

/-- Whether every item can be read. -/
def itemsReadable : List Json → Bool
  | [] => true
  | item :: rest => item.readable && itemsReadable rest

/-- Whether every value of some fields can be read. -/
def fieldsReadable : List (String × Json) → Bool
  | [] => true
  | (_, value) :: rest => value.readable && fieldsReadable rest

end

/-- The values given for a field under any of its names. -/
def given (names : List String) (fields : List (String × Json)) : List Json :=
  (fields.filter fun f => names.contains f.1).map Prod.snd

/-- One value per declared field, where there is one. -/
def record? (declared : List (List String)) : Json → Option (List (Option Json))
  | .obj fields =>
    declared.mapM fun names =>
      match given names fields with
      | [] => some none
      | [value] => some (some value)
      | _ => none
  | .arr items =>
    if items.length ≤ declared.length then
      some (items.map some ++ List.replicate (declared.length - items.length) none)
    else none
  | _ => none

/-- A text. -/
def string? : Json → Option String
  | .str s => some s
  | _ => none

/-- A truth value. -/
def bool? : Json → Option Bool
  | .bool b => some b
  | _ => none

/-- A whole number below a bound. -/
def natBelow? (bound : Nat) : Json → Option Nat
  | .num n => n.toNat?.filter (· < bound)
  | _ => none

/-- A double. -/
def double? : Json → Option Float
  | .num n => n.toFloat?
  | _ => none

/-- A single. -/
def single? : Json → Option Float32
  | .num n => n.toFloat32?
  | _ => none

/-- The items of an array, each read. -/
def list? {α : Type} (read : Json → Option α) : Json → Option (List α)
  | .arr items => items.mapM read
  | _ => none

/-- The fields of an object, each value read. -/
def entries? {α : Type} (read : Json → Option α) : Json → Option (List (String × α))
  | .obj fields => fields.mapM fun f => (read f.2).map (f.1, ·)
  | _ => none

/-- What may be left out by writing `null`. -/
def nullable? {α : Type} (read : Json → Option α) : Json → Option (Option α)
  | .null => some none
  | doc => (read doc).map some

/-- A field that has to be given. -/
def required {α : Type} (read : Json → Option α) : Option Json → Option α
  | some doc => read doc
  | none => none

/-- A field with a value for when it is not given. -/
def defaulted {α : Type} (default : α) (read : Json → Option α) : Option Json → Option α
  | some doc => read doc
  | none => some default

/-- A bare name: a text, or an object with that one field and nothing in it. -/
def name? (loose : Bool) : Json → Option String
  | .str s => some s
  | .obj [(name, .null)] => some name
  | .obj [(name, .obj [])] => if loose then some name else none
  | _ => none

/-- One of several bare names. -/
def choice? {α : Type} (loose : Bool) (read : String → Option α) (doc : Json) : Option α :=
  (doc.name? loose).bind read

/-- The variant that a tag names. -/
def variant? (loose : Bool) (variants : List String) : Json → Option String
  | .str s => if variants.contains s then some s else none
  | .num n => if loose then n.toNat?.bind fun i => variants[i]? else none
  | _ => none

/-- The variant of a tagged value, and its fields without the tag. -/
def tagged? (loose : Bool) (tag : String) (variants : List String) (doc : Json) :
    Option (String × Json) :=
  if loose || doc.readable then
    match doc with
    | .obj fields =>
      match given [tag] fields with
      | [value] =>
        (variant? loose variants value).map fun v => (v, .obj (fields.filter fun f => f.1 ≠ tag))
      | _ => none
    | .arr (value :: rest) => (variant? loose variants value).map fun v => (v, .arr rest)
    | _ => none
  else none

/-- The fields of a variant that has none of its own: whatever stands in an object, and nothing
in an array. -/
def bare? : Json → Option Unit
  | .obj _ => some ()
  | .arr [] => some ()
  | _ => none

end Json

end GuidedDecoding
