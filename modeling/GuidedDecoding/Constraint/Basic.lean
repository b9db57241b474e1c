import GuidedDecoding.NameSet

/-!
# Constraints on generated text

A constraint is one declarative rule about what a model may generate. Its payload says what the
rule is, and its enforcement says which representation carries it out while text is decoded. An
advisory constraint is carried along as a remark and enforced by nothing.
-/

namespace GuidedDecoding

/-- What a constraint is about. -/
inductive Kind where
  | syntactic
  | typeSafety
  | semantic
  | architectural
  | operational
  | security
deriving DecidableEq, Repr

namespace Kind

/-- Every kind. -/
def all : List Kind := [.syntactic, .typeSafety, .semantic, .architectural, .operational, .security]

def name : Kind → String
  | .syntactic => "syntactic"
  | .typeSafety => "type_safety"
  | .semantic => "semantic"
  | .architectural => "architectural"
  | .operational => "operational"
  | .security => "security"

end Kind

/-- How important a constraint is; of two that conflict the more important one is kept. -/
inductive Priority where
  | optional
  | low
  | medium
  | high
  | critical
deriving DecidableEq, Repr

namespace Priority

/-- Every priority, the least important first. -/
def all : List Priority := [.optional, .low, .medium, .high, .critical]

def name : Priority → String
  | .optional => "optional"
  | .low => "low"
  | .medium => "medium"
  | .high => "high"
  | .critical => "critical"

/-- The place of a priority in the order. -/
def rank : Priority → Nat
  | .optional => 0
  | .low => 1
  | .medium => 2
  | .high => 3
  | .critical => 4

instance : LT Priority := ⟨fun p q => p.rank < q.rank⟩

instance : LE Priority := ⟨fun p q => p.rank ≤ q.rank⟩

instance (p q : Priority) : Decidable (p < q) := inferInstanceAs (Decidable (p.rank < q.rank))

instance (p q : Priority) : Decidable (p ≤ q) := inferInstanceAs (Decidable (p.rank ≤ q.rank))

theorem lt_def {p q : Priority} : p < q ↔ p.rank < q.rank := Iff.rfl

theorem le_def {p q : Priority} : p ≤ q ↔ p.rank ≤ q.rank := Iff.rfl

theorem rank_inj {p q : Priority} : p.rank = q.rank ↔ p = q := by
  cases p <;> cases q <;> simp [rank]

end Priority

/-- How bad a violation is. -/
inductive Severity where
  | error
  | warning
  | info
  | hint
deriving DecidableEq, Repr

namespace Severity

/-- Every severity. -/
def all : List Severity := [.error, .warning, .info, .hint]

def name : Severity → String
  | .error => "error"
  | .warning => "warning"
  | .info => "info"
  | .hint => "hint"

end Severity

/-- The representation that enforces a constraint during decoding. -/
inductive Enforcement where
  | schema
  | grammar
  | regex
  | tokenMask
  | advisory
deriving DecidableEq, Repr

namespace Enforcement

/-- Every enforcement. -/
def all : List Enforcement := [.schema, .grammar, .regex, .tokenMask, .advisory]

def name : Enforcement → String
  | .schema => "schema"
  | .grammar => "grammar"
  | .regex => "regex"
  | .tokenMask => "token_mask"
  | .advisory => "advisory"

end Enforcement

/-- How a constraint was found. -/
inductive ProvenanceSource where
  | staticAnalysis
  | declaration
  | semantic
deriving DecidableEq, Repr

namespace ProvenanceSource

/-- Every source. -/
def all : List ProvenanceSource := [.staticAnalysis, .declaration, .semantic]

def name : ProvenanceSource → String
  | .staticAnalysis => "static_analysis"
  | .declaration => "declaration"
  | .semantic => "semantic"

end ProvenanceSource

/-- Where a constraint came from, with a free remark such as a file or a model. -/
structure Provenance where
  source : ProvenanceSource := .staticAnalysis
  origin : Option String := none
deriving DecidableEq, Repr

/-- The type of a field inside an object type, and whether the field may be left out. -/
structure Member (τ : Type) where
  type : τ
  optional : Bool
deriving DecidableEq, Repr

/-- The declared type of a field's value. -/
inductive FieldType where
  | string
  | number
  | integer
  | boolean
  | null
  | array (items : FieldType)
  | object (fields : List (String × Member FieldType))
deriving Repr, Inhabited

namespace FieldType

def name : FieldType → String
  | .string => "string"
  | .number => "number"
  | .integer => "integer"
  | .boolean => "boolean"
  | .null => "null"
  | .array _ => "array"
  | .object _ => "object"

mutual

/-- Whether two types are the same. -/
def decEq : (a b : FieldType) → Decidable (a = b)
  | .string, b => by cases b <;> first | exact isTrue rfl | exact isFalse nofun
  | .number, b => by cases b <;> first | exact isTrue rfl | exact isFalse nofun
  | .integer, b => by cases b <;> first | exact isTrue rfl | exact isFalse nofun
  | .boolean, b => by cases b <;> first | exact isTrue rfl | exact isFalse nofun
  | .null, b => by cases b <;> first | exact isTrue rfl | exact isFalse nofun
  | .array a, .array b =>
    match a.decEq b with
    | isTrue h => isTrue (by rw [h])
    | isFalse h => isFalse (by simpa using h)
  | .array _, .string => isFalse nofun
  | .array _, .number => isFalse nofun
  | .array _, .integer => isFalse nofun
  | .array _, .boolean => isFalse nofun
  | .array _, .null => isFalse nofun
  | .array _, .object _ => isFalse nofun
  | .object a, .object b =>
    match decEqFields a b with
    | isTrue h => isTrue (by rw [h])
    | isFalse h => isFalse (by simpa using h)
  | .object _, .string => isFalse nofun
  | .object _, .number => isFalse nofun
  | .object _, .integer => isFalse nofun
  | .object _, .boolean => isFalse nofun
  | .object _, .null => isFalse nofun
  | .object _, .array _ => isFalse nofun

/-- Whether two lists of fields are the same. -/
def decEqFields : (a b : List (String × Member FieldType)) → Decidable (a = b)
  | [], [] => isTrue rfl
  | [], _ :: _ => isFalse nofun
  | _ :: _, [] => isFalse nofun
  | (n, ⟨t, o⟩) :: r, (m, ⟨u, p⟩) :: s =>
    match t.decEq u, decEqFields r s with
    | isTrue h, isTrue k =>
      if g : n = m ∧ o = p then isTrue (by simp_all) else isFalse (by simp_all)
    | isFalse h, _ => isFalse (by simp_all)
    | _, isFalse h => isFalse (by simp_all)

end

instance : DecidableEq FieldType := decEq

end FieldType

/-- One symbol on the right-hand side of a production. -/
inductive Symbol where
  | terminal (text : String)
  | rule (name : String)
deriving DecidableEq, Repr

/-- What a token rule does with the symbols it selects. -/
inductive MaskAction where
  | allow
  | deny
deriving DecidableEq, Repr

namespace MaskAction

/-- Every action. -/
def all : List MaskAction := [.allow, .deny]

def name : MaskAction → String
  | .allow => "allow"
  | .deny => "deny"

end MaskAction

/-- Selects symbols of the decoding vocabulary. -/
inductive SymbolMatcher where
  | literals (members : NameSet)
  | startingWith (text : String)
  | pattern (source : String)
deriving DecidableEq

/-- The payload of a constraint. An empty alternative of a production derives the empty string; a
production bound to a field generates that field's value. -/
inductive Payload where
  | field (path : String) (type : FieldType) (optional : Bool)
  | production (rule : String) (alternatives : List (List Symbol)) (field : Option String)
  | regex (field : String) (pattern : String)
  | tokenRule (action : MaskAction) (selects : SymbolMatcher)
  | text (description : String)
deriving DecidableEq

/-- Whether a representation can enforce a payload. Anything may be advisory. -/
def Enforcement.accepts : Enforcement → Payload → Bool
  | .schema, .field .. => true
  | .grammar, .production .. => true
  | .regex, .regex .. => true
  | .tokenMask, .tokenRule .. => true
  | .advisory, _ => true
  | _, _ => false

/-- One declarative rule to be enforced on generated text. -/
structure Constraint where
  id : String
  kind : Kind
  priority : Priority
  severity : Severity := .error
  enforcement : Enforcement
  payload : Payload
  confidence : Float := 1.0
  provenance : Provenance := {}
  dependsOn : NameSet := ∅
  conflictsWith : NameSet := ∅

namespace Constraint

/-- Whether two constraints say the same; confidences are compared as numbers. -/
def sameAs (c d : Constraint) : Bool :=
  c.id = d.id && c.kind = d.kind && c.priority = d.priority && c.severity = d.severity
    && c.enforcement = d.enforcement && c.payload = d.payload && c.confidence == d.confidence
    && c.provenance = d.provenance && c.dependsOn = d.dependsOn
    && c.conflictsWith = d.conflictsWith

/-- Whether some representation enforces the constraint. -/
def isEnforced (c : Constraint) : Bool := c.enforcement ≠ .advisory

/-- A field, possibly nested by a dotted path, has a type. -/
def ofField (id : String) (priority : Priority) (path : String) (type : FieldType) :
    Constraint where
  id
  kind := .typeSafety
  priority
  enforcement := .schema
  payload := .field path type false

/-- A field's whole value matches a pattern. -/
def ofRegex (id : String) (priority : Priority) (field pattern : String) : Constraint where
  id
  kind := .syntactic
  priority
  enforcement := .regex
  payload := .regex field pattern

/-- A rule of the grammar has some alternatives. -/
def ofProduction (id : String) (priority : Priority) (rule : String)
    (alternatives : List (List Symbol)) : Constraint where
  id
  kind := .syntactic
  priority
  enforcement := .grammar
  payload := .production rule alternatives none

/-- Symbols of the vocabulary are allowed or denied. -/
def ofTokenRule (id : String) (priority : Priority) (action : MaskAction)
    (selects : SymbolMatcher) : Constraint where
  id
  kind := .security
  priority
  enforcement := .tokenMask
  payload := .tokenRule action selects

/-- A remark that nothing enforces. -/
def ofAdvice (id : String) (priority : Priority) (description : String) : Constraint where
  id
  kind := .semantic
  priority
  enforcement := .advisory
  payload := .text description

/-- Let a production generate the value of a field. Other payloads stay as they are. -/
def boundToField (c : Constraint) (field : String) : Constraint :=
  match c.payload with
  | .production rule alternatives _ =>
    { c with payload := .production rule alternatives (some field) }
  | _ => c

/-- Add a constraint that this one depends on. -/
def dependingOn (c : Constraint) (id : String) : Constraint :=
  { c with dependsOn := c.dependsOn.insert id }

/-- Add a constraint that this one conflicts with. -/
def conflictingWith (c : Constraint) (id : String) : Constraint :=
  { c with conflictsWith := c.conflictsWith.insert id }

end Constraint

end GuidedDecoding
