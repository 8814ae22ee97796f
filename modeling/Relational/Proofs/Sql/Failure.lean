import Relational.Proofs.Plan.Deferral
import Relational.Proofs.Sql.Addition

namespace Relational

open Sql

def Column.fault? (d : Dialect) (t : Table) (c : Column) : Option ScriptError :=
  if (d.nativeType? c.type).isSome then none
  else some (.unmappedType t.name c.name c.type d)

def Table.fault? (d : Dialect) (t : Table) : Option ScriptError :=
  if Text.isBlankText t.name then some .emptyTableName
  else if t.columns = [] then some (.noColumns t.name)
  else t.columns.findSome? (·.fault? d t)

namespace Sql

theorem failure?_defineColumn (d : Dialect) (t : Table) (c : Column) :
    failure? (defineColumn d t c) = c.fault? d t := by
  unfold defineColumn Column.fault?
  cases d.nativeType? c.type <;> rfl

theorem failure?_tableColumns (d : Dialect) (t : Table) :
    failure? (tableColumns d t) = t.fault? d := by
  unfold tableColumns Table.fault?
  split
  case isTrue => rfl
  case isFalse =>
    simp only [List.isEmpty_iff]
    split
    case isTrue => rfl
    case isFalse =>
      rw [failure?_mapM]
      exact congrArg t.columns.findSome? (funext (failure?_defineColumn d t))

theorem failure?_defineTables (d : Dialect) (used : UsedNames) (cs : List Creation) :
    failure? (defineTables d used cs) = cs.findSome? (·.table.fault? d) := by
  induction cs generalizing used
  case nil => rfl
  case cons c cs hi =>
    have hc : failure? (defineTable d used c) = c.table.fault? d := by
      rw [defineTable_eq, failure?_map, failure?_tableColumns]
    rw [defineTables, findSome?_cons_or, ← hc]
    refine failure?_bind fun defined _ => ?_
    exact (failure?_bind_ok fun _ => ⟨_, rfl⟩).trans (hi defined.2)

end Sql

theorem Table.fault?_eq_none_iff {d : Dialect} {t : Table} : t.fault? d = none ↔ t.Definable d := by
  rw [← failure?_tableColumns, failure?_eq_none, exists_tableColumns_iff]

instance {d : Dialect} {t : Table} : Decidable (t.Definable d) :=
  decidable_of_iff _ Table.fault?_eq_none_iff

theorem Plan.failure?_script (d : Dialect) (p : Plan) :
    failure? (p.script d) = p.creations.findSome? (·.table.fault? d) :=
  (failure?_bind_ok fun _ => ⟨_, rfl⟩).trans (failure?_defineTables d [] p.creations)

theorem Schema.failure?_generate {s : Schema} {p : Plan} (hp : s.plan = .ok p) (d : Dialect) :
    failure? (s.generate d) = p.creations.findSome? (·.table.fault? d) := by
  rw [generate, hp]
  exact (failure?_bind_ok fun _ => ⟨_, rfl⟩).trans (p.failure?_script d)

theorem Table.Definable.joinTable {d : Dialect} {taken : List String} {left right : Endpoint}
    (h : ∀ q ∈ [left, right], q.table.Definable d ∧ q.column ∈ q.table.columns) :
    (Relational.joinTable taken left right).Definable d := by
  have htype : ∀ q ∈ [left, right], (d.nativeType? q.column.type).isSome :=
    fun q hq => (h q hq).left.types q.column (h q hq).right
  refine ⟨?name, List.cons_ne_nil _ _, ?types⟩
  case name =>
    have hp : (left.table.name ++ "_" ++ right.table.name).toList <+:
        (Relational.joinTable taken left right).name.toList :=
      leastFree_joinTable_name.candidate.isPrefix
    exact List.all_eq_false.mpr ⟨'_', hp.subset (by simp), by decide⟩
  case types =>
    rw [List.forall_mem_cons, List.forall_mem_singleton] at htype
    exact List.forall_mem_cons.mpr ⟨htype.left, List.forall_mem_singleton.mpr htype.right⟩

namespace Plan.Meets

variable {s : Schema} {demand : Demand} {p : Plan} {d : Dialect}

theorem mem_declared (h : p.Meets s demand) {c : Creation} (hc : c ∈ p.creations) :
    c.table ∈ p.declared s :=
  h.tables_perm.mem_iff.mp (List.mem_map_of_mem hc)

theorem forall_creations_iff (h : p.Meets s demand) {P : Table → Prop} :
    (∀ c ∈ p.creations, P c.table) ↔ ∀ t ∈ p.declared s, P t := by
  have hperm : ∀ t, t ∈ p.creations.map (·.table) ↔ t ∈ p.declared s :=
    fun _ => h.tables_perm.mem_iff
  simp only [← hperm, List.forall_mem_map]

theorem not_mem_synthesized_of_first (h : p.Meets s demand) (hn : (s.tables.map (·.name)).Nodup)
    {before after : List Creation} {c : Creation} (hc : p.creations = before ++ c :: after)
    (hb : ∀ b ∈ before, b.table.Definable d) (hd : ¬c.table.Definable d) :
    c.table ∉ p.synthesized := by
  intro hj
  -- A join table copies types of tables that come before it, and these have definitions.
  have ⟨_, left, right, hjoin, hends⟩ := h.joined_before hn hc hj
  refine hd (hjoin ▸ Table.Definable.joinTable fun q hq => ?_)
  have ⟨hq, hcol⟩ := hends q hq
  exact ⟨List.forall_mem_map.mpr hb q.table hq, hcol⟩

end Plan.Meets

namespace Schema

variable {s : Schema} {d : Dialect} {p : Plan}

theorem generate_eq_plan_error {e : PlanError} (he : s.plan = .error e) :
    s.generate d = .error (.plan e) := by
  rw [generate, he]
  rfl

theorem exists_generate_iff :
    (∃ text, s.generate d = .ok text) ↔
      ∃ p, s.plan = .ok p ∧ ∀ t ∈ p.declared s, t.Definable d := by
  cases hp : s.plan
  case error e => simp [generate_eq_plan_error hp]
  case ok p =>
    have ⟨_, hm⟩ := s.exists_meets hp
    rw [← failure?_eq_none, failure?_generate hp, List.findSome?_eq_none_iff]
    simp only [Except.ok.injEq, exists_eq_left', Table.fault?_eq_none_iff]
    exact hm.forall_creations_iff

theorem generate_eq_error_iff_of_plan (hn : (s.tables.map (·.name)).Nodup) (hp : s.plan = .ok p)
    {error : ScriptError} :
    s.generate d = .error error ↔
      ∃ before c after, p.creations = before ++ c :: after ∧
        (∀ b ∈ before, b.table.Definable d) ∧
        c.table ∈ s.tables ∧ c.table ∉ p.synthesized ∧ c.table.fault? d = some error := by
  have ⟨_, hm⟩ := s.exists_meets hp
  rw [← failure?_eq_some, failure?_generate hp, List.findSome?_eq_some_iff]
  simp only [Table.fault?_eq_none_iff]
  constructor
  · intro ⟨before, c, after, hc, herror, hb⟩
    have hd : ¬c.table.Definable d := fun hd => by
      simp [Table.fault?_eq_none_iff.mpr hd] at herror
    have hj := hm.not_mem_synthesized_of_first hn hc hb hd
    have ht : c.table ∈ s.tables ++ p.synthesized := hm.mem_declared (by simp [hc])
    exact ⟨before, c, after, hc, hb, (List.mem_append.mp ht).resolve_right hj, hj, herror⟩
  · intro ⟨before, c, after, hc, hb, _, _, herror⟩
    exact ⟨before, c, after, hc, herror, hb⟩

end Schema

-- There is a script if and only if there is a plan, and a definition for each of its tables. If
-- there is a plan, the error is about the first table without a definition in the order of
-- creation, which is a table of the schema.
theorem Schema.generate_eq_error_iff {s : Schema} (hn : (s.tables.map (·.name)).Nodup)
    (d : Dialect) :
    ((∃ text, s.generate d = .ok text) ↔
      ∃ p, s.plan = .ok p ∧ ∀ t ∈ p.declared s, t.Definable d) ∧
    (∀ e, s.plan = .error e → s.generate d = .error (.plan e)) ∧
    ∀ p, s.plan = .ok p → ∀ error, s.generate d = .error error ↔
      ∃ before c after, p.creations = before ++ c :: after ∧
        (∀ b ∈ before, b.table.Definable d) ∧
        c.table ∈ s.tables ∧ c.table ∉ p.synthesized ∧ c.table.fault? d = some error :=
  ⟨exists_generate_iff, fun _ => generate_eq_plan_error,
    fun _ hp _ => generate_eq_error_iff_of_plan hn hp⟩

namespace Staff

def timed : Schema where
  tables := [
    { role with columns := [{ name := "id", type := "INT" }, { name := "code", type := "TIME" }] },
    department, person,
    { project with columns := [{ name := "code", type := "TIME", primaryKey := true }] }]

end Staff

theorem generate_eq_error_iff_staff :
    (Staff.timed.tables.map (·.name)).Nodup ∧ ∃ p, Staff.timed.plan = .ok p ∧
    Staff.timed.generate .oracle = .error (.unmappedType "project" "code" "TIME" .oracle) := by
  have hn : (Staff.timed.tables.map (·.name)).Nodup := by decide
  refine ⟨hn, _, rfl, ((Schema.generate_eq_error_iff hn .oracle).right.right _ rfl _).mpr ?_⟩
  exact ⟨[_, _], _, _, rfl, by decide⟩

end Relational
