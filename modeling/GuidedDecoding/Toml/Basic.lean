/-!
# Values of a TOML document

A table knows how it came about, since that decides what may still be added to it: a table under a
header of its own is complete with what follows the header, one that was only passed through by a
longer header may get a header later, one that dotted keys made may get further dotted keys, and an
inline table is closed.
-/

namespace GuidedDecoding

namespace Toml

/-- How a table came about. -/
inductive TableOrigin where
  | header
  | implied
  | dotted
  | inline
deriving DecidableEq, Repr

/-- A value. Texts, numbers with a fraction and points in time are told apart, but what they say
is not kept. -/
inductive Value where
  | text
  | integer (n : Int)
  | decimal
  | moment
  | boolean (b : Bool)
  | array (items : List Value)
  | tables (items : List (List (String × Value)))
  | table (origin : TableOrigin) (entries : List (String × Value))
deriving Repr, Inhabited

/-- The entries of a table, in the order in which they were defined. -/
abbrev Entries := List (String × Value)

/-- A piece of a document: a key with a value, the header of a table, or the header of an element
of an array of tables. -/
inductive Statement where
  | define (key : List String) (value : Value)
  | table (key : List String)
  | element (key : List String)
deriving Repr

end Toml

end GuidedDecoding
