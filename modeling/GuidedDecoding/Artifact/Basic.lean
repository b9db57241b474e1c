import GuidedDecoding.Fingerprint
import GuidedDecoding.Grammar.Codec
import GuidedDecoding.Pattern.Basic
import GuidedDecoding.Schema.Codec
import GuidedDecoding.TokenMask.Basic

/-!
# Compiled artifacts

An artifact is what a set of constraints compiles to: up to four fragments, each of which enforces
some of the constraints, and a list of the constraints that nothing enforces. Two artifacts with
the same content have the same digest.
-/

namespace GuidedDecoding

/-- Why a constraint is carried along without being enforced. -/
inductive AdvisoryReason where
  | declared
  | demoted (winner : String)
deriving DecidableEq, Repr

/-- A constraint that nothing enforces. -/
structure AdvisoryEntry where
  id : String
  priority : Priority
  reason : AdvisoryReason
deriving DecidableEq, Repr

/-- A conflict that was settled by priority. -/
structure CompilationNote where
  kept : String
  demoted : String
  keptPriority : Priority
  demotedPriority : Priority
deriving DecidableEq, Repr

/-- What the representations of a set of constraints enforce together. -/
structure Fragments where
  schema : Option Schema := none
  grammar : Option Grammar := none
  patterns : Option PatternSet := none
  mask : Option TokenMask := none

/-- What a set of constraints compiles to. -/
structure Artifact extends Fragments where
  advisory : List AdvisoryEntry := []
  notes : List CompilationNote := []
  source : Fingerprint

namespace AdvisoryEntry

/-- The reason as fields beside those of the entry. -/
def reasonFields : AdvisoryReason → List (String × Json)
  | .declared => [("reason", .str "declared")]
  | .demoted winner => [("reason", .str "conflict_demoted"), ("winner", .str winner)]

def toJson (e : AdvisoryEntry) : Json :=
  .obj ([("constraint_id", .str e.id), ("priority", e.priority.toJson)] ++ reasonFields e.reason)

/-- The tags of reasons, by position. -/
def tags : List String := ["declared", "conflict_demoted"]

/-- The reason that stands among the fields of an entry. -/
def reasonOfJson? (doc : Json) : Option AdvisoryReason := do
  let (tag, body) ← doc.tagged? true "reason" tags
  match tag with
  | "declared" => return .declared
  | "conflict_demoted" =>
    match ← body.record? [["winner"]] with
    | [winner] => return .demoted (← Json.required Json.string? winner)
    | _ => none
  | _ => none

/-- An entry is always an object, since its reason is spread out over its fields. -/
def ofJson? : Json → Option AdvisoryEntry
  | .obj fields => do
    match ← Json.record? [["constraint_id"], ["priority"]] (.obj fields) with
    | [id, priority] =>
      let others := fields.filter fun f => f.1 ≠ "constraint_id" && f.1 ≠ "priority"
      if Json.fieldsReadable others then
        return ⟨← Json.required Json.string? id, ← Json.required (Priority.ofJson? false) priority,
          ← reasonOfJson? (.obj others)⟩
      else none
    | _ => none
  | _ => none

end AdvisoryEntry

namespace CompilationNote

def toJson (n : CompilationNote) : Json :=
  .obj [("note", .str "conflict_resolved"), ("kept", .str n.kept), ("demoted", .str n.demoted),
    ("kept_priority", n.keptPriority.toJson), ("demoted_priority", n.demotedPriority.toJson)]

def ofJson? (doc : Json) : Option CompilationNote := do
  let (_, body) ← doc.tagged? false "note" ["conflict_resolved"]
  match ← body.record? [["kept"], ["demoted"], ["kept_priority"], ["demoted_priority"]] with
  | [kept, demoted, keptPriority, demotedPriority] =>
    return ⟨← Json.required Json.string? kept, ← Json.required Json.string? demoted,
      ← Json.required (Priority.ofJson? true) keptPriority,
      ← Json.required (Priority.ofJson? true) demotedPriority⟩
  | _ => none

end CompilationNote

namespace Artifact

/-- The artifact of a set that needs nothing enforced. -/
def empty (source : Fingerprint) : Artifact where
  source

/-- The lists that an artifact carries beside its fragments, and the set it was compiled from. -/
def remarks (a : Artifact) : List (String × Json) :=
  [("advisory", .arr (a.advisory.map AdvisoryEntry.toJson)),
    ("notes", .arr (a.notes.map CompilationNote.toJson)),
    ("source_fingerprint", a.source.toJson)]

/-- The document of an artifact; fragments that it does not have are left out. -/
def toJson (a : Artifact) : Json :=
  .obj (Json.whenSome "schema" Schema.toJson a.schema
    ++ Json.whenSome "grammar" Grammar.toJson a.grammar
    ++ Json.whenSome "regex_set" PatternSet.toJson a.patterns
    ++ Json.whenSome "token_mask_rules" TokenMask.toJson a.mask ++ a.remarks)

/-- The document that the digest is taken of; every fragment has its place in it. -/
def digestView (a : Artifact) : Json :=
  .obj ([("schema", Json.orNull Schema.toJson a.schema),
    ("grammar", Json.orNull Grammar.toJson a.grammar),
    ("regex_set", Json.orNull PatternSet.toJson a.patterns),
    ("token_mask_rules", Json.orNull TokenMask.toJson a.mask)] ++ a.remarks)

/-- What tells the digest of an artifact from other hashes. -/
def digestTag : String := "tether.constraint-ir.v1"

/-- The bytes that the digest hashes. -/
def digestContent (a : Artifact) : List UInt8 :=
  Fingerprint.utf8 digestTag ++ Fingerprint.utf8 a.digestView.render

/-- The name of the content of an artifact. -/
def digest (a : Artifact) : Fingerprint := .ofContent a.digestContent

/-- The number of fragments. -/
def fragmentCount (a : Artifact) : Nat :=
  a.schema.isSome.toNat + a.grammar.isSome.toNat + a.patterns.isSome.toNat + a.mask.isSome.toNat

/-- Whether some fragment enforces something. -/
def hasEnforcement (a : Artifact) : Bool :=
  a.schema.isSome || a.grammar.isSome || a.patterns.isSome || a.mask.isSome

/-- Whether a constraint is carried along without being enforced. -/
def isAdvisory (a : Artifact) (id : String) : Bool := a.advisory.any fun e => e.id = id

end Artifact

end GuidedDecoding
