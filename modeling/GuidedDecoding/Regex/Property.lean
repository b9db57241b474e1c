import GuidedDecoding.Regex.CharSet
import GuidedDecoding.Text.Property
import GuidedDecoding.Text.Script

/-!
# Properties by name

Names are compared without case, blanks, hyphens and underscores, and without a leading `is`. A
name alone is a property, a general category or a script; a name with a value is a category or a
script, perhaps by extension.
-/

namespace GuidedDecoding

namespace CharacterProperty

/-- The form in which names are compared. -/
def normalized (name : List Char) : String :=
  let lower := fun (cs : List Char) =>
    (cs.filter fun c => c.toNat < 0x80 && c ≠ ' ' && c ≠ '_' && c ≠ '-').map Char.toLower
  match name with
  | a :: b :: rest =>
    if a.toLower = 'i' && b.toLower = 's' then
      let short := lower rest
      String.ofList (if short = ['c'] then ['i', 's', 'c'] else short)
    else String.ofList (lower name)
  | name => String.ofList (lower name)

/-- What a table has under a name. -/
def named? {α : Type} (name : String) (table : List (List String × α)) : Option α :=
  (table.find? fun e => e.1.contains name).map Prod.snd

/-- The general category of a name. -/
def category? (name : String) : Option CharSet :=
  if name = "any" then some .all
  else if name = "assigned" then some (.compl (.points Text.unassigned))
  else if name = "ascii" then some (.range '\x00' '\x7f')
  else (named? name (Text.categories ++ Text.categoryGroups)).map .points

/-- The script of a name. -/
def script? (name : String) : Option CharSet := (named? name Text.scripts).map .points

/-- Code points that are used in several scripts, or in others than their own. -/
def extended : CodePoints := .unions (Text.extensions.map Prod.snd)

/-- The characters that are used in a script. -/
def scriptExtension? (name : String) : Option CharSet := do
  let (names, own) ← Text.scripts.find? fun e => e.1.contains name
  let used := (Text.extensions.filter fun e => e.1.any names.contains).map Prod.snd
  let own := CharSet.points own
  if names.contains "common" || names.contains "inherited" then return own.diff (.points extended)
  else return .union own (.points (.unions used))

/-- A property that holds or does not. -/
def binary? (name : String) : Option CharSet :=
  match named? name Text.properties with
  | some points => some (.points points)
  | none => (named? name Text.reducedProperties).map fun (points, except) =>
      (CharSet.points points).diff (.points except)

/-- Abbreviations that name a category although a property has the same one. -/
def reservedNames : List String := ["cf", "sc", "lc"]

/-- The characters of a name alone. -/
def ofName? (name : String) : Option CharSet :=
  let categoryOrScript := (category? name).or (script? name)
  if reservedNames.contains name then categoryOrScript else (binary? name).or categoryOrScript

/-- The characters for which a property has a value. Categories and scripts are known here; ages and
places of breaks are not. -/
def ofValue? (name value : String) : Option CharSet :=
  if name = "gc" || name = "generalcategory" then category? value
  else if name = "sc" || name = "script" then script? value
  else if name = "scx" || name = "scriptextensions" then scriptExtension? value
  else none

/-- What follows the first place where a text stands, and what comes before it. -/
def splitAt? (mark : List Char) : List Char → Option (List Char × List Char)
  | [] => none
  | c :: rest =>
    if mark.isPrefixOf (c :: rest) then some ([], (c :: rest).drop mark.length)
    else (splitAt? mark rest).map fun r => (c :: r.1, r.2)

/-- The characters of what stands between the braces of a property. -/
def find? (text : List Char) : Option CharSet :=
  match ((splitAt? ['!', '='] text).or (splitAt? [':'] text)).or (splitAt? ['='] text) with
  | some (name, value) => ofValue? (normalized name) (normalized value)
  | none => ofName? (normalized text)

end CharacterProperty

end GuidedDecoding
