import GuidedDecoding.Proofs.Grammar.Accepted
import GuidedDecoding.Proofs.Grammar.Sources
import GuidedDecoding.Proofs.NameSet

/-!
# What merging productions amounts to

Merged rules are the union of the productions: a rule has the alternatives, the field and the
sources that some production gives it, and no others, each alternative once. Productions can be
merged when each of them makes sense by itself and none binds a rule to another field than the
others do. Neither says anything of the order in which they come.

Each of these facts is a fold that adds to a rule what the next production has
(`MergedRules.adds_of_ofConstraints`).
-/

namespace GuidedDecoding

namespace Constraint

/-- The constraint is a production of a rule. -/
def Produces (c : Constraint) (rule : String) : Prop :=
  ∃ alternatives field, c.payload = .production rule alternatives field

/-- The constraint lists an alternative of a rule. -/
def Lists (c : Constraint) (rule : String) (symbols : List Symbol) : Prop :=
  ∃ alternatives field, c.payload = .production rule alternatives field ∧ symbols ∈ alternatives

/-- The constraint binds a rule to a field. -/
def Binds (c : Constraint) (rule field : String) : Prop :=
  ∃ alternatives, c.payload = .production rule alternatives (some field)

/-- The constraint is a production that makes sense by itself. -/
def IsProper (c : Constraint) : Prop :=
  ∃ rule alternatives field, c.payload = .production rule alternatives field ∧
    Grammar.productionFault? rule alternatives = none

theorem Binds.unique {c : Constraint} {rule field field' : String}
    (h : c.Binds rule field) (h' : c.Binds rule field') : field = field' := by
  obtain ⟨_, payload⟩ := h
  obtain ⟨_, payload'⟩ := h'
  cases payload.symm.trans payload'
  rfl

end Constraint

/-! ### One rule and one production -/

namespace MergedRule

variable {m merged : MergedRule} {rule source : String} {alternatives : List (List Symbol)}
  {field : Option String}

theorem alternatives_toRule_list {symbols : List Symbol} :
    (m.list source symbols).toRule.alternatives =
      if symbols ∈ m.toRule.alternatives then m.toRule.alternatives
      else m.toRule.alternatives ++ [symbols] := by
  have known : (m.alternatives.any fun a => a.symbols = symbols) = true ↔
      symbols ∈ m.toRule.alternatives := by
    simp [toRule]
  unfold list
  split
  · next listed => rw [if_pos (known.1 listed)]
  · next new =>
    rw [if_neg fun listed => new (known.2 listed)]
    simp [toRule]

theorem mem_toRule_foldl_list {symbols : List Symbol} :
    symbols ∈ (alternatives.foldl (list source) m).toRule.alternatives ↔
      symbols ∈ m.toRule.alternatives ∨ symbols ∈ alternatives := by
  induction alternatives generalizing m with
  | nil => simp
  | cons first rest ih =>
    rw [List.foldl_cons, ih, alternatives_toRule_list, List.mem_cons, ← or_assoc]
    split
    · next listed =>
      have same : symbols = first → symbols ∈ m.toRule.alternatives := fun eq => eq ▸ listed
      tauto
    · simp

theorem nodup_toRule_foldl_list (nodup : m.toRule.alternatives.Nodup) :
    (alternatives.foldl (list source) m).toRule.alternatives.Nodup := by
  induction alternatives generalizing m with
  | nil => exact nodup
  | cons first rest ih =>
    apply ih
    rw [alternatives_toRule_list]
    split
    · exact nodup
    · next new => exact List.nodup_append.2 ⟨nodup, List.nodup_singleton _, by grind⟩

/-- A production can be added to a rule unless it asks for another field. -/
theorem exists_add_iff : (∃ merged, m.add rule source alternatives field = .ok merged) ↔
    ∀ bound asked, m.toRule.field = some bound → field = some asked → bound = asked := by
  have binds : (∃ merged, m.add rule source alternatives field = .ok merged) ↔
      ∃ binding, bind rule source m.binding field = .ok binding := by
    simp only [add, Outcome.bind_eq_ok_iff]
    exact ⟨fun ⟨_, binding, done, _⟩ => ⟨binding, done⟩, fun ⟨_, done⟩ => ⟨_, _, done, rfl⟩⟩
  rw [binds]
  cases field with
  | none => simp [bind]
  | some asked =>
    cases h : m.binding with
    | none => simp [bind, toRule, h]
    | some b =>
      by_cases same : b.field = asked <;> simp [bind, toRule, h, same]

section Added

variable (added : m.add rule source alternatives field = .ok merged)
include added

theorem mem_toRule_of_add {symbols : List Symbol} : symbols ∈ merged.toRule.alternatives ↔
    symbols ∈ m.toRule.alternatives ∨ symbols ∈ alternatives := by
  obtain ⟨binding, -, same⟩ := Outcome.bind_eq_ok_iff.1 added
  cases same
  exact mem_toRule_foldl_list

theorem nodup_toRule_of_add (nodup : m.toRule.alternatives.Nodup) :
    merged.toRule.alternatives.Nodup := by
  obtain ⟨binding, -, same⟩ := Outcome.bind_eq_ok_iff.1 added
  cases same
  exact nodup_toRule_foldl_list nodup

theorem field_toRule_of_add {bound : String} : merged.toRule.field = some bound ↔
    m.toRule.field = some bound ∨ field = some bound := by
  obtain ⟨binding, done, same⟩ := Outcome.bind_eq_ok_iff.1 added
  cases same
  cases field with
  | none =>
    cases done
    simp [toRule]
  | some asked =>
    cases h : m.binding with
    | none =>
      rw [h] at done
      cases done
      simp [toRule, h]
    | some b =>
      by_cases same : b.field = asked
      · simp only [bind, h, if_pos same] at done
        cases done
        simp [toRule, h, same]
      · simp [bind, h, same] at done

end Added

end MergedRule

/-! ### All rules and all productions -/

namespace MergedRules

variable {m merged : MergedRules} {c : Constraint} {l : List Constraint} {name : String}

/-- What is filed under a name so far, which is nothing for a new rule. -/
def filed (m : MergedRules) (name : String) : MergedRule := (Keyed.get? name m.rules).getD {}

/-- What adding a constraint does: it has to be a proper production, and what is filed under its
rule is replaced. -/
theorem add_eq_ok_iff : m.add c = .ok merged ↔
    ∃ rule alternatives field new, c.payload = .production rule alternatives field ∧
      Grammar.productionFault? rule alternatives = none ∧
      (m.filed rule).add rule c.id alternatives field = .ok new ∧
      merged.rules = Keyed.insert rule new m.rules := by
  unfold add
  split
  · next rule alternatives field payload =>
    split
    · next fault => simp [payload, fault]
    · next sensible =>
      simp only [Outcome.bind_eq_ok_iff, payload]
      constructor
      · rintro ⟨new, done, same⟩
        cases same
        exact ⟨rule, alternatives, field, new, rfl, sensible, done, rfl⟩
      · rintro ⟨_, _, _, new, same, -, done, rules⟩
        cases same
        refine ⟨new, done, ?_⟩
        obtain ⟨rules', sorted⟩ := merged
        cases rules
        rfl
  · next other =>
    simp only [reduceCtorEq, false_iff]
    rintro ⟨rule, alternatives, field, new, payload, -⟩
    exact other rule alternatives field payload

theorem filed_of_rules_eq {rule : String} {new : MergedRule}
    (rules : merged.rules = Keyed.insert rule new m.rules) :
    merged.filed name = if rule = name then new else m.filed name := by
  unfold filed
  rw [rules, Keyed.get?_insert]
  split <;> rfl

theorem mem_names_of_add (h : m.add c = .ok merged) :
    name ∈ Keyed.names merged.rules ↔ name ∈ Keyed.names m.rules ∨ c.Produces name := by
  obtain ⟨rule, alternatives, field, new, payload, -, -, rules⟩ := add_eq_ok_iff.1 h
  rw [rules, Keyed.mem_names_insert, or_comm]
  simp [Constraint.Produces, payload, eq_comm]

/-- The names of the rules are those that productions declare. -/
theorem mem_names_of_ofConstraints (h : ofConstraints l = .ok m) :
    name ∈ Keyed.names m.rules ↔ ∃ c ∈ l, c.Produces name := by
  have step : ∀ m c merged, add m c = .ok merged →
      (name ∈ Keyed.names merged.rules ↔ name ∈ Keyed.names m.rules ∨ c.Produces name) :=
    fun _ _ _ => mem_names_of_add
  rw [Outcome.foldlM_adds step h]
  simp [empty, Keyed.names]

section Adds

variable {p : MergedRule → Prop} {q : String → List (List Symbol) → Option String → Prop}

/-- What a production adds to its rule, adding the production adds to what is filed under the
name. -/
theorem adds_of_add
    (step : ∀ m rule source alternatives field merged,
      m.add rule source alternatives field = .ok merged →
        (p merged ↔ p m ∨ q source alternatives field))
    (h : m.add c = .ok merged) :
    p (merged.filed name) ↔ p (m.filed name) ∨
      ∃ alternatives field, c.payload = .production name alternatives field ∧
        q c.id alternatives field := by
  obtain ⟨rule, alternatives, field, new, payload, -, done, rules⟩ := add_eq_ok_iff.1 h
  rw [filed_of_rules_eq rules, payload]
  split
  · next same =>
    subst same
    rw [step _ _ _ _ _ _ done]
    simp
  · next other => simp [other]

/-- What productions add to their rules is what the merged rules have. -/
theorem adds_of_ofConstraints
    (step : ∀ m rule source alternatives field merged,
      m.add rule source alternatives field = .ok merged →
        (p merged ↔ p m ∨ q source alternatives field))
    (start : ¬ p {}) (h : ofConstraints l = .ok m) :
    p (m.filed name) ↔ ∃ c ∈ l, ∃ alternatives field,
      c.payload = .production name alternatives field ∧ q c.id alternatives field := by
  have each : ∀ m c merged, add m c = .ok merged → (p (merged.filed name) ↔ p (m.filed name) ∨
      ∃ alternatives field, c.payload = .production name alternatives field ∧
        q c.id alternatives field) := fun _ _ _ => adds_of_add step
  rw [Outcome.foldlM_adds each h]
  exact or_iff_right start

end Adds

theorem mem_alternatives_of_ofConstraints (h : ofConstraints l = .ok m) {symbols : List Symbol} :
    symbols ∈ (m.filed name).toRule.alternatives ↔ ∃ c ∈ l, c.Lists name symbols :=
  adds_of_ofConstraints (p := fun r => symbols ∈ r.toRule.alternatives)
    (q := fun _ alternatives _ => symbols ∈ alternatives)
    (fun _ _ _ _ _ _ added => MergedRule.mem_toRule_of_add added) List.not_mem_nil h

theorem field_of_ofConstraints (h : ofConstraints l = .ok m) {field : String} :
    (m.filed name).toRule.field = some field ↔ ∃ c ∈ l, c.Binds name field := by
  rw [adds_of_ofConstraints (p := fun r => r.toRule.field = some field)
    (q := fun _ _ asked => asked = some field)
    (fun _ _ _ _ _ _ added => MergedRule.field_toRule_of_add added) (by simp [MergedRule.toRule]) h]
  simp [Constraint.Binds]

theorem mem_sources_of_ofConstraints (h : ofConstraints l = .ok m) {id : String} :
    id ∈ (m.filed name).toRule.sources ↔ ∃ c ∈ l, c.Produces name ∧ c.id = id := by
  rw [adds_of_ofConstraints (p := fun r => id ∈ r.toRule.sources)
    (q := fun source _ _ => source = id) ?_ NameSet.not_mem_empty h]
  · simp [Constraint.Produces]
  · intro m rule source alternatives field merged added
    rw [MergedRule.toRule, sources_of_add added, NameSet.mem_insert, or_comm, eq_comm]
    rfl

theorem nodup_of_ofConstraints (h : ofConstraints l = .ok m) :
    (m.filed name).toRule.alternatives.Nodup := by
  refine Outcome.foldlM_keeps (fun m => (m.filed name).toRule.alternatives.Nodup) ?_
    List.nodup_nil h
  intro m c merged nodup added
  obtain ⟨rule, alternatives, field, new, payload, -, done, rules⟩ := add_eq_ok_iff.1 added
  rw [filed_of_rules_eq rules]
  split
  · next same =>
    subst same
    exact MergedRule.nodup_toRule_of_add done nodup
  · exact nodup

/-! ### When productions can be merged -/

/-- Productions that can be merged: each makes sense by itself, and no rule is bound to two
fields. -/
structure Mergeable (l : List Constraint) : Prop where
  proper : ∀ c ∈ l, c.IsProper
  oneField : ∀ c ∈ l, ∀ d ∈ l, ∀ rule field field', c.Binds rule field → d.Binds rule field' →
    field = field'

theorem exists_add_eq_ok_iff : (∃ merged, m.add c = .ok merged) ↔ c.IsProper ∧
    ∀ rule bound asked, (m.filed rule).toRule.field = some bound → c.Binds rule asked →
      bound = asked := by
  constructor
  · rintro ⟨merged, added⟩
    obtain ⟨rule, alternatives, field, new, payload, sensible, done, -⟩ := add_eq_ok_iff.1 added
    refine ⟨⟨rule, alternatives, field, payload, sensible⟩, ?_⟩
    rintro other bound asked binds ⟨_, payload'⟩
    cases payload.symm.trans payload'
    exact MergedRule.exists_add_iff.1 ⟨new, done⟩ bound asked binds rfl
  · rintro ⟨⟨rule, alternatives, field, payload, sensible⟩, agree⟩
    have fits : ∃ new, (m.filed rule).add rule c.id alternatives field = .ok new := by
      refine MergedRule.exists_add_iff.2 fun bound asked binds same => ?_
      exact agree rule bound asked binds ⟨alternatives, same ▸ payload⟩
    obtain ⟨new, done⟩ := fits
    exact ⟨⟨Keyed.insert rule new m.rules, Keyed.sorted_insert m.sorted⟩,
      add_eq_ok_iff.2 ⟨rule, alternatives, field, new, payload, sensible, done, rfl⟩⟩

theorem mergeable_concat : Mergeable (l ++ [c]) ↔ Mergeable l ∧ c.IsProper ∧
    ∀ d ∈ l, ∀ rule bound asked, d.Binds rule bound → c.Binds rule asked → bound = asked := by
  constructor
  · intro h
    refine ⟨⟨fun d member => h.proper d (by simp [member]), fun d member e member' =>
      h.oneField d (by simp [member]) e (by simp [member'])⟩, h.proper c (by simp), ?_⟩
    exact fun d member => h.oneField d (by simp [member]) c (by simp)
  · rintro ⟨h, proper, agree⟩
    refine ⟨List.forall_mem_append.2 ⟨h.proper, List.forall_mem_singleton.2 proper⟩, ?_⟩
    intro d member e member' rule field field' binds binds'
    rcases List.mem_append.1 member with old | new <;>
      rcases List.mem_append.1 member' with old' | new'
    · exact h.oneField d old e old' rule field field' binds binds'
    · cases List.mem_singleton.1 new'
      exact agree d old rule field field' binds binds'
    · cases List.mem_singleton.1 new
      exact (agree e old' rule field' field binds' binds).symm
    · cases List.mem_singleton.1 new
      cases List.mem_singleton.1 new'
      exact binds.unique binds'

/-- Productions are merged exactly when they can be. -/
theorem exists_ofConstraints_iff : (∃ m, ofConstraints l = .ok m) ↔ Mergeable l := by
  induction l using List.reverseRecOn with
  | nil => exact ⟨fun _ => ⟨by simp, by simp⟩, fun _ => ⟨empty, rfl⟩⟩
  | append_singleton l c ih =>
    have last : (∃ m, ofConstraints (l ++ [c]) = .ok m) ↔
        ∃ m, ofConstraints l = .ok m ∧ ∃ merged, m.add c = .ok merged := by
      simp only [ofConstraints, List.foldlM_append, Outcome.bind_eq_ok_iff, List.foldlM_cons,
        List.foldlM_nil, pure, Except.pure, Except.ok.injEq, exists_eq_right]
      exact ⟨fun ⟨merged, m, done, added⟩ => ⟨m, done, merged, added⟩,
        fun ⟨m, done, merged, added⟩ => ⟨merged, m, done, added⟩⟩
    rw [last, mergeable_concat, ← ih]
    constructor
    · rintro ⟨m, done, fits⟩
      obtain ⟨proper, agree⟩ := exists_add_eq_ok_iff.1 fits
      refine ⟨⟨m, done⟩, proper, fun d member rule bound asked binds => ?_⟩
      exact agree rule bound asked ((field_of_ofConstraints done).2 ⟨d, member, binds⟩)
    · rintro ⟨⟨m, done⟩, proper, agree⟩
      refine ⟨m, done, exists_add_eq_ok_iff.2 ⟨proper, fun rule bound asked filed => ?_⟩⟩
      obtain ⟨d, member, binds⟩ := (field_of_ofConstraints done).1 filed
      exact agree d member rule bound asked binds

theorem Mergeable.perm {l' : List Constraint} (h : Mergeable l) (perm : l.Perm l') :
    Mergeable l' where
  proper c member := h.proper c (perm.mem_iff.2 member)
  oneField c member d member' := h.oneField c (perm.mem_iff.2 member) d (perm.mem_iff.2 member')

end MergedRules

/-! ### The union of productions -/

/-- Symbols derive a text by the productions as they stand. -/
inductive Spells (l : List Constraint) : List Symbol → String → Prop where
  | nil : Spells l [] ""
  | terminal (text : String) {rest : List Symbol} {others : String}
      (behind : Spells l rest others) : Spells l (.terminal text :: rest) (text ++ others)
  | rule {c : Constraint} {name : String} {symbols rest : List Symbol} {piece others : String}
      (member : c ∈ l) (listed : c.Lists name symbols) (inside : Spells l symbols piece)
      (behind : Spells l rest others) : Spells l (.rule name :: rest) (piece ++ others)

namespace Grammar

/-- The rules of a grammar are those of some productions, each with the alternatives that some
production lists, every one once, with the field that some production binds it to, and with the
constraints that declare it. -/
structure Unites (g : Grammar) (l : List Constraint) : Prop where
  declared : ∀ name, name ∈ Keyed.names g.rules ↔ ∃ c ∈ l, c.Produces name
  once : ∀ name r, g.rule? name = some r → r.alternatives.Nodup
  alternatives : ∀ name r, g.rule? name = some r → ∀ symbols,
    symbols ∈ r.alternatives ↔ ∃ c ∈ l, c.Lists name symbols
  field : ∀ name r, g.rule? name = some r → ∀ field,
    r.field = some field ↔ ∃ c ∈ l, c.Binds name field
  sources : ∀ name r, g.rule? name = some r → ∀ id,
    id ∈ r.sources ↔ ∃ c ∈ l, c.Produces name ∧ c.id = id

theorem exists_rule_of_declared {g : Grammar} {name : String}
    (declared : name ∈ Keyed.names g.rules) : ∃ r, g.rule? name = some r := by
  obtain ⟨⟨_, r⟩, member, rfl⟩ := List.mem_map.1 declared
  exact ⟨r, Keyed.get?_of_mem g.sorted member⟩

namespace Unites

variable {g : Grammar} {l : List Constraint}

/-- The grammar derives what the productions spell. -/
theorem derives_iff (unites : g.Unites l) {symbols : List Symbol} {text : String} :
    g.Derives symbols text ↔ Spells l symbols text := by
  constructor
  · rintro ⟨f, rfl⟩
    induction f with
    | nil => exact .nil
    | terminal text others ih => exact .terminal text ih
    | rule found choice children others ihChildren ihOthers =>
      obtain ⟨c, member, listed⟩ :=
        (unites.alternatives _ _ found _).1 (List.getElem_mem choice.isLt)
      exact .rule member listed ihChildren ihOthers
  · intro spells
    induction spells with
    | nil => exact derives_nil.2 rfl
    | terminal text _ ih => exact derives_terminal_cons.2 ⟨_, ih, rfl⟩
    | @rule c name symbols rest piece others member listed _ _ ihInside ihBehind =>
      obtain ⟨alternatives, field, payload, _⟩ := id listed
      have declared := (unites.declared name).2 ⟨c, member, alternatives, field, payload⟩
      obtain ⟨r, found⟩ := exists_rule_of_declared declared
      have first := derives_rule.2
        ⟨r, found, symbols, (unites.alternatives _ _ found _).2 ⟨c, member, listed⟩, ihInside⟩
      exact derives_rule_cons.2 ⟨piece, others, first, ihBehind, rfl⟩

end Unites

end Grammar

namespace MergedRules

variable {m : MergedRules} {l : List Constraint}

theorem filed_of_rule? {name : String} {r : GrammarRule} (found : m.toGrammar.rule? name = some r) :
    r = (m.filed name).toRule := by
  obtain ⟨merged, member, rfl⟩ := mem_rules_toGrammar.1 (Keyed.mem_of_get? found)
  rw [filed, Keyed.get?_of_mem m.sorted member, Option.getD_some]

/-- Merging unites the productions. -/
theorem unites_of_ofConstraints (h : ofConstraints l = .ok m) : m.toGrammar.Unites l where
  declared name := by rw [names_toGrammar, mem_names_of_ofConstraints h]
  once name r found := filed_of_rule? found ▸ nodup_of_ofConstraints h
  alternatives name r found symbols := by
    rw [filed_of_rule? found, mem_alternatives_of_ofConstraints h]
  field name r found field := by rw [filed_of_rule? found, field_of_ofConstraints h]
  sources name r found id := by rw [filed_of_rule? found, mem_sources_of_ofConstraints h]

end MergedRules

end GuidedDecoding
