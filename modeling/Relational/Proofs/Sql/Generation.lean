import Relational.Proofs.Plan.Execution
import Relational.Proofs.Sql.ScriptText
import Relational.Sql.Generate

namespace Relational

open Sql

def Column.declared? (d : Dialect) (c : Column) : Option ColumnDefinition := do
  let type ← d.nativeType? c.type
  some { name := c.name, type, identity := c.autoIncrement }

def Table.declaredKey? (t : Table) : Option PrimaryKey :=
  match t.columns.filter (·.primaryKey) with
  | [] => none
  | columns => some { constraint := none, columns := columns.map (·.name) }

def ForeignKey.declared (k : ForeignKey) : Reference where
  constraint := none
  column := k.column
  table := k.referencedTable
  referencedColumn := k.referencedColumn

def Creation.declared? (d : Dialect) (c : Creation) : Option TableDefinition := do
  let columns ← c.table.columns.mapM (·.declared? d)
  some {
    name := c.table.name
    columns
    primaryKey := c.table.declaredKey?
    references := c.keys.map (·.declared) }

-- All that a script for a plan has to say: the tables in their order, the deferred keys after them,
-- and what the dialect puts at the end.
def Plan.statements? (d : Dialect) (p : Plan) : Option (List Statement) := do
  let tables ← p.creations.mapM (·.declared? d)
  some (tables.map .create ++ (p.deferred.map fun k => .add k.table k.declared) ++
    if d.footer?.isSome then [.commit] else [])

namespace Sql

def PrimaryKey.unnamed (k : PrimaryKey) : PrimaryKey :=
  { k with constraint := none }

def Reference.unnamed (r : Reference) : Reference :=
  { r with constraint := none }

namespace TableDefinition

def unnamed (t : TableDefinition) : TableDefinition :=
  { t with
    primaryKey := t.primaryKey.map (·.unnamed)
    references := t.references.map (·.unnamed) }

def constraints (t : TableDefinition) : List (Option String) :=
  t.primaryKey.toList.map (·.constraint) ++ t.references.map (·.constraint)

end TableDefinition

namespace Statement

def unnamed : Statement → Statement
  | create t => create t.unnamed
  | add table r => add table r.unnamed
  | commit => commit

def constraints : Statement → List (Option String)
  | create t => t.constraints
  | add _ r => [r.constraint]
  | commit => []

end Statement

section

variable {d : Dialect}

theorem toOption_defineColumn (t : Table) (c : Column) :
    (defineColumn d t c).toOption = c.declared? d := by
  rw [defineColumn, Column.declared?]
  cases d.nativeType? c.type <;> rfl

theorem isSome_nameConstraint (used : UsedNames) (base : String) :
    (nameConstraint d used base).1.isSome = d.namesConstraints := by
  rw [nameConstraint]
  cases h : d.namesConstraints <;> rfl

theorem unnamed_definePrimaryKey (used : UsedNames) (t : Table) :
    (definePrimaryKey d used t).1.map (·.unnamed) = t.declaredKey? := by
  rw [definePrimaryKey, Table.declaredKey?, Table.primaryKey]
  cases t.columns.filter (·.primaryKey) <;> rfl

theorem isSome_definePrimaryKey (used : UsedNames) (t : Table) :
    ∀ k ∈ (definePrimaryKey d used t).1, k.constraint.isSome = d.namesConstraints := by
  rw [definePrimaryKey]
  cases t.primaryKey
  case nil => nofun
  case cons =>
    intro k hk
    cases hk
    exact isSome_nameConstraint used _

theorem ne_nil_of_declaredKey? {t : Table} {k : PrimaryKey} (h : t.declaredKey? = some k) :
    k.columns ≠ [] := by
  unfold Table.declaredKey? at h
  split at h
  case h_1 => cases h
  case h_2 hn =>
    cases h
    exact fun he => hn (List.map_eq_nil_iff.mp he)

theorem references_defineReferences (used : UsedNames) (keys : List ForeignKey) :
    (defineReferences d used keys).1.map (·.unnamed) = keys.map (·.declared) ∧
      ∀ r ∈ (defineReferences d used keys).1, r.constraint.isSome = d.namesConstraints := by
  induction keys generalizing used
  case nil => exact ⟨rfl, nofun⟩
  case cons k keys hi =>
    have ⟨hu, hn⟩ := hi (defineReference d used k).2
    refine ⟨congrArg (k.declared :: ·) hu, List.forall_mem_cons.mpr ⟨?_, hn⟩⟩
    exact isSome_nameConstraint used _

structure DefinitionOf (d : Dialect) (c : Creation) (t : TableDefinition) : Prop where
  name       : t.name = c.table.name
  columns    : c.table.columns.mapM (·.declared? d) = some t.columns
  primaryKey : t.primaryKey.map (·.unnamed) = c.table.declaredKey?
  references : t.references.map (·.unnamed) = c.keys.map (·.declared)
  named      : ∀ name ∈ t.constraints, name.isSome = d.namesConstraints
  nonempty   : t.columns ≠ []

theorem definitionOf_defineTable {used used' : UsedNames} {c : Creation} {t : TableDefinition}
    (h : defineTable d used c = .ok (t, used')) : DefinitionOf d c t := by
  unfold defineTable at h
  split at h
  case isTrue => cases h
  case isFalse =>
    split at h
    case isTrue => cases h
    case isFalse he =>
      have ⟨columns, hc, h⟩ := bind_eq_ok.mp h
      cases h
      have ⟨hr, hn⟩ :=
        references_defineReferences (d := d) (definePrimaryKey d used c.table).2 c.keys
      constructor
      case name => rfl
      case columns =>
        have := congrArg (·.toOption) hc
        rwa [toOption_mapM, funext (toOption_defineColumn c.table)] at this
      case primaryKey => exact unnamed_definePrimaryKey used c.table
      case references => exact hr
      case named =>
        intro name hm
        cases List.mem_append.mp hm
        case inl hm =>
          have ⟨k, hk, he⟩ := List.mem_map.mp hm
          exact he ▸ isSome_definePrimaryKey used c.table k (Option.mem_toList.mp hk)
        case inr hm =>
          have ⟨r, hr, he⟩ := List.mem_map.mp hm
          exact he ▸ hn r hr
      case nonempty =>
        have ⟨column, hm⟩ := List.exists_mem_of_ne_nil c.table.columns (by simpa using he)
        have ⟨_, hc, _⟩ := exists_mem_of_mapM_ok hc column hm
        exact List.ne_nil_of_mem hc

theorem definitionsOf_defineTables {used used' : UsedNames} {cs : List Creation}
    {ts : List TableDefinition} (h : defineTables d used cs = .ok (ts, used')) :
    List.Forall₂ (DefinitionOf d) cs ts := by
  induction cs generalizing used ts
  case nil =>
    cases h
    exact .nil
  case cons c cs hi =>
    have ⟨⟨t, used₁⟩, ht, h⟩ := bind_eq_ok.mp h
    have ⟨⟨ts, used₂⟩, hts, h⟩ := bind_eq_ok.mp h
    cases h
    exact .cons (definitionOf_defineTable ht) (hi hts)

namespace DefinitionOf

variable {c : Creation} {t : TableDefinition}

theorem declared? (h : DefinitionOf d c t) : c.declared? d = some t.unnamed := by
  rw [Creation.declared?, h.columns, TableDefinition.unnamed, h.primaryKey, h.references, h.name]
  rfl

theorem proper (h : DefinitionOf d c t) (hd : d ≠ .generic) : (Statement.create t).Proper := by
  refine ⟨h.nonempty, fun i hi => ?_⟩
  simp only [TableDefinition.items, List.mem_append, List.mem_map, Option.mem_toList] at hi
  rcases hi with (⟨column, hm, rfl⟩ | ⟨k, hm, rfl⟩) | ⟨r, hm, rfl⟩
  case inl.inl =>
    obtain ⟨column', -, hc⟩ := exists_mem_of_mem_mapM h.columns column hm
    obtain ⟨type, ht, ⟨⟩⟩ := Option.bind_eq_some_iff.mp hc
    exact Dialect.spelled_nativeType? hd ht
  case inl.inr =>
    have hk := h.primaryKey
    rw [hm] at hk
    exact ne_nil_of_declaredKey? (k := k.unnamed) hk.symm
  case inr => trivial

end DefinitionOf

theorem mapM_declared? {cs : List Creation} {ts : List TableDefinition}
    (h : List.Forall₂ (DefinitionOf d) cs ts) :
    cs.mapM (·.declared? d) = some (ts.map (·.unnamed)) := by
  induction h
  case nil => rfl
  case cons h _ hi =>
    rw [List.mapM_cons, h.declared?, hi]
    rfl

end

end Sql

namespace Plan

variable {d : Dialect} {p : Plan} {script : Script}

structure ScriptOf (d : Dialect) (p : Plan) (script : Script) : Prop where
  tables    : List.Forall₂ (DefinitionOf d) p.creations script.tables
  additions : ∃ references : List Reference,
    script.additions = (p.deferred.map (·.table)).zip references ∧
      references.map (·.unnamed) = p.deferred.map (·.declared) ∧
      ∀ r ∈ references, r.constraint.isSome = d.namesConstraints

theorem scriptOf (h : p.script d = .ok script) : p.ScriptOf d script := by
  have ⟨⟨tables, used⟩, ht, h⟩ := bind_eq_ok.mp h
  cases h
  have hr := references_defineReferences (d := d) used p.deferred
  exact ⟨definitionsOf_defineTables ht, _, rfl, hr⟩

theorem forall_mem_statements {P : Statement → Prop} (ht : ∀ t ∈ script.tables, P (.create t))
    (ha : ∀ a ∈ script.additions, P (.add a.1 a.2)) (hc : P .commit) :
    ∀ st ∈ script.statements d, P st := by
  intro st hst
  simp only [Script.statements, List.mem_append, List.mem_map] at hst
  rcases hst with (⟨t, hm, rfl⟩ | ⟨a, hm, rfl⟩) | hm
  case inl.inl => exact ht t hm
  case inl.inr => exact ha a hm
  case inr =>
    split at hm
    case isTrue => exact List.mem_singleton.mp hm ▸ hc
    case isFalse => cases hm

namespace ScriptOf

theorem statements? (h : p.ScriptOf d script) :
    p.statements? d = some ((script.statements d).map (·.unnamed)) := by
  have ⟨references, ha, hr, _⟩ := h.additions
  have hz : script.additions.map (fun a => Statement.unnamed (.add a.1 a.2)) =
      p.deferred.map fun k => .add k.table k.declared := by
    have hz := congrArg (List.zip (p.deferred.map (·.table))) hr
    rw [List.zip_map_right, List.zip_map', ← ha] at hz
    have := congrArg (List.map fun a => Statement.add a.1 a.2) hz
    simpa [Function.comp_def, Statement.unnamed] using this
  have hc : (if d.footer?.isSome then [Statement.commit] else []).map (·.unnamed) =
      if d.footer?.isSome then [.commit] else [] := by
    cases d <;> rfl
  simp only [Script.statements, List.map_append, List.map_map, Function.comp_def, hz, hc]
  rw [Plan.statements?, mapM_declared? h.tables]
  simp [Function.comp_def, Statement.unnamed]

theorem proper (h : p.ScriptOf d script) (hd : d ≠ .generic) :
    ∀ st ∈ script.statements d, st.Proper := by
  refine forall_mem_statements (fun t ht => ?_) (fun _ _ => trivial) trivial
  have ⟨_, _, ht⟩ := exists_mem_of_forall₂ h.tables t ht
  exact ht.proper hd

theorem named (h : p.ScriptOf d script) :
    ∀ st ∈ script.statements d, ∀ name ∈ st.constraints, name.isSome = d.namesConstraints := by
  refine forall_mem_statements (fun t ht => ?_) (fun (table, r) ha => ?_) nofun
  case refine_1 =>
    have ⟨_, _, ht⟩ := exists_mem_of_forall₂ h.tables t ht
    exact ht.named
  case refine_2 =>
    have ⟨references, he, _, hn⟩ := h.additions
    exact List.forall_mem_singleton.mpr (hn r (List.of_mem_zip (he ▸ ha)).2)

end ScriptOf

end Plan

-- Reading a generated script gives back what its plan says, with names for constraints exactly
-- where the dialect has them.
theorem Schema.readStatements_generate {s : Schema} {d : Dialect} {text : String}
    (hd : d ≠ .generic) (h : s.generate d = .ok text) :
    ∃ p statements, s.plan = .ok p ∧
      (p.creations.map (·.table)).Perm (s.tables ++ p.synthesized) ∧
      readStatements d text = some statements ∧
      p.statements? d = some (statements.map (·.unnamed)) ∧
      ∀ st ∈ statements, ∀ name ∈ st.constraints, name.isSome = d.namesConstraints := by
  have ⟨p, hp, h⟩ := bind_eq_ok.mp h
  have ⟨script, hs, h⟩ := bind_eq_ok.mp h
  cases h
  have hp := mapError_eq_ok.mp hp
  have ⟨demand, hm⟩ := s.exists_meets hp
  have h := Plan.scriptOf hs
  exact ⟨p, script.statements d, hp, hm.tables_perm, script.readStatements_text d (h.proper hd),
    h.statements?, h.named⟩

namespace Awkward

def first : Table where
  name := "CONSTRAINT"
  columns := [
    { name := "PRIMARY", type := "int", primaryKey := true, autoIncrement := true },
    { name := "a\";", type := "decimal(5, 2)" }]
  relationships := [⟨.oneToMany, "b\n(", "a\";", "KEY", none⟩]

def second : Table where
  name := "b\n("
  columns := [
    { name := "KEY", type := "double" },
    { name := "", type := "text", primaryKey := true }]
  relationships := [⟨.oneToMany, "CONSTRAINT", "KEY", "PRIMARY", none⟩]

def schema : Schema where
  tables := [first, second]

def statements : List Statement := [
  .create {
    name := "CONSTRAINT"
    columns := [⟨"PRIMARY", "NUMBER", true⟩, ⟨"a\";", "NUMBER(5,2)", false⟩]
    primaryKey := some ⟨none, ["PRIMARY"]⟩
    references := [] },
  .create {
    name := "b\n("
    columns := [⟨"KEY", "BINARY_DOUBLE", false⟩, ⟨"", "CLOB", false⟩]
    primaryKey := some ⟨none, [""]⟩
    references := [⟨none, "KEY", "CONSTRAINT", "PRIMARY"⟩] },
  .add "CONSTRAINT" ⟨none, "a\";", "b\n(", "KEY"⟩,
  .commit]

theorem exists_text : ∃ text, schema.generate .oracle = .ok text :=
  ⟨_, rfl⟩

end Awkward

theorem readStatements_generate_awkward :
    ∃ text read, Awkward.schema.generate .oracle = .ok text ∧
      readStatements .oracle text = some read ∧
      read.map (·.unnamed) = Awkward.statements := by
  have ⟨text, h⟩ := Awkward.exists_text
  have ⟨p, read, hp, _, hr, hs, _⟩ := Schema.readStatements_generate (by decide) h
  refine ⟨text, read, h, hr, ?_⟩
  cases hp
  exact (Option.some.inj hs).symm

end Relational
