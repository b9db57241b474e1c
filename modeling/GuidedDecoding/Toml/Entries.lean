import GuidedDecoding.Toml.Basic

/-!
# Defining each thing once

A key may be defined once, and a table may have one header. Dotted keys make tables on the way and
add to tables that dotted keys made; headers make tables on the way and go through every table but
an inline one, an array of tables meaning its last element.
-/

namespace GuidedDecoding

namespace Toml

namespace Entries

/-- The value of a name. -/
def get? (name : String) (entries : Entries) : Option Value :=
  (entries.find? fun e => e.1 = name).map Prod.snd

/-- Give a name a value in place of the one that it has, or at the end. -/
def put (name : String) (value : Value) : Entries → Entries
  | [] => [(name, value)]
  | (k, v) :: rest => if k = name then (k, value) :: rest else (k, v) :: put name value rest

theorem get?_put (name other : String) (value : Value) (entries : Entries) :
    get? other (put name value entries) =
      if name = other then some value else get? other entries := by
  induction entries with
  | nil => by_cases same : name = other <;> simp [get?, put, same]
  | cons e rest ih =>
    obtain ⟨k, v⟩ := e
    unfold get? at ih ⊢
    unfold put
    split
    · next found =>
      subst found
      by_cases same : k = other <;> simp [same]
    · next passed =>
      by_cases here : k = other
      · subst here
        simp [Ne.symm passed]
      · simp only [List.find?_cons, here, decide_false]
        exact ih

/-- Change the last table of an array. -/
def changeLast (change : Entries → Option Entries) : List Entries → Option (List Entries)
  | [] => none
  | [last] => (change last).map fun last => [last]
  | first :: rest => (changeLast change rest).map (first :: ·)

/-- Define a dotted key. -/
def define (value : Value) : List String → Entries → Option Entries
  | [], _ => none
  | [name], entries =>
    match get? name entries with
    | none => some (put name value entries)
    | some _ => none
  | name :: inner :: rest, entries =>
    match get? name entries with
    | none =>
      (define value (inner :: rest) []).map fun made => put name (.table .dotted made) entries
    | some (.table .dotted known) =>
      (define value (inner :: rest) known).map fun made => put name (.table .dotted made) entries
    | some (.table .implied known) =>
      if rest.isEmpty then none
      else
        (define value (inner :: rest) known).map fun made => put name (.table .implied made) entries
    | some (.tables items) =>
      if rest.isEmpty then none
      else
        (changeLast (define value (inner :: rest)) items).map fun made =>
          put name (.tables made) entries
    | some _ => none

/-- Change the table that the key of a header leads to. -/
def changeAt (change : Entries → Option Entries) : List String → Entries → Option Entries
  | [], entries => change entries
  | name :: rest, entries =>
    match get? name entries with
    | none => (changeAt change rest []).map fun made => put name (.table .implied made) entries
    | some (.table .inline _) => none
    | some (.table origin known) =>
      (changeAt change rest known).map fun made => put name (.table origin made) entries
    | some (.tables items) =>
      (changeLast (changeAt change rest) items).map fun made => put name (.tables made) entries
    | some _ => none

/-- Open a table under a header of its own. -/
def openTable (name : String) (entries : Entries) : Option Entries :=
  match get? name entries with
  | none => some (put name (.table .header []) entries)
  | some (.table .implied known) => some (put name (.table .header known) entries)
  | some _ => none

/-- Open a further element of an array of tables. -/
def openElement (name : String) (entries : Entries) : Option Entries :=
  match get? name entries with
  | none => some (put name (.tables [[]]) entries)
  | some (.tables items) => some (put name (.tables (items ++ [[]])) entries)
  | some _ => none

/-- The entries after a statement under a header, and the header after it. -/
def afterStatement (header : List String) (entries : Entries) :
    Statement → Option (List String × Entries)
  | .define key value => (changeAt (define value key) header entries).map (header, ·)
  | .table key =>
    key.getLast?.bind fun name => (changeAt (openTable name) key.dropLast entries).map (key, ·)
  | .element key =>
    key.getLast?.bind fun name => (changeAt (openElement name) key.dropLast entries).map (key, ·)

/-- The entries that statements define one after another. -/
def ofStatements? (statements : List Statement) : Option Entries :=
  (statements.foldlM (fun state s => afterStatement state.1 state.2 s) ([], [])).map Prod.snd

/-- The entries of an inline table. -/
def ofPairs? (pairs : List (List String × Value)) : Option Entries :=
  pairs.foldlM (fun entries p => define p.2 p.1 entries) []

end Entries

end Toml

end GuidedDecoding
