import Relational.Proofs.Plan.Creation

namespace Relational

def HasColumn (tables : List Table) (table column : String) : Prop :=
  ∃ t ∈ tables, t.name = table ∧ t.hasColumn column

instance {tables : List Table} {table column : String} :
    Decidable (HasColumn tables table column) :=
  inferInstanceAs (Decidable (∃ t ∈ tables, _))

abbrev Database := List Table

namespace Database

def Accepts (db : Database) (k : ForeignKey) : Prop :=
  HasColumn db k.table k.column ∧ HasColumn db k.referencedTable k.referencedColumn

instance {db : Database} {k : ForeignKey} : Decidable (db.Accepts k) :=
  inferInstanceAs (Decidable (_ ∧ _))

-- Creates a table under a name that is free. Its keys have to be its own, and may reference columns
-- that are there by then, those of the table itself among them.
def create (db : Database) (c : Creation) : Option Database :=
  if c.table.name ∉ db.map (·.name) ∧
      ∀ k ∈ c.keys, k.table = c.table.name ∧ Accepts (db ++ [c.table]) k then
    some (db ++ [c.table])
  else none

def alter (db : Database) (k : ForeignKey) : Option Database :=
  if db.Accepts k then some db else none

end Database

def Plan.execute (p : Plan) : Option Database := do
  let db ← p.creations.foldlM Database.create []
  p.deferred.foldlM Database.alter db

theorem HasColumn.mono {tables more : List Table} {table column : String} (hs : tables ⊆ more)
    (h : HasColumn tables table column) : HasColumn more table column :=
  have ⟨t, ht, h⟩ := h
  ⟨t, hs ht, h⟩

namespace Database

theorem foldlM_create {db : Database} {cs : List Creation}
    (hn : ((db ++ cs.map (·.table)).map (·.name)).Nodup)
    (hk : ∀ before c after, cs = before ++ c :: after → ∀ k ∈ c.keys,
      k.table = c.table.name ∧ Accepts (db ++ (before ++ [c]).map (·.table)) k) :
    cs.foldlM create db = some (db ++ cs.map (·.table)) := by
  induction cs generalizing db
  case nil => simp
  case cons c cs ih =>
    have happ : db ++ (c :: cs).map (·.table) = (db ++ [c.table]) ++ cs.map (·.table) := by simp
    rw [happ] at hn ⊢
    have hc : db.create c = some (db ++ [c.table]) := by
      refine if_pos ⟨?_, hk [] c cs rfl⟩
      rw [List.map_append, List.map_append] at hn
      have := (List.nodup_append.mp (List.nodup_append.mp hn).left).right.right
      exact fun h => this _ h c.table.name (by simp) rfl
    rw [List.foldlM_cons, hc]
    refine ih hn fun before c' after heq k hmem => ?_
    have := hk (c :: before) c' after (by simp [heq]) k hmem
    simpa using this

theorem foldlM_alter {db : Database} {ks : List ForeignKey} (h : ∀ k ∈ ks, db.Accepts k) :
    ks.foldlM alter db = some db := by
  induction ks
  case nil => rfl
  case cons k ks ih =>
    have ⟨hk, h⟩ := List.forall_mem_cons.mp h
    rw [List.foldlM_cons, alter, if_pos hk]
    exact ih h

end Database

namespace Plan.Meets

variable {s : Schema} {d : Demand} {p : Plan}

theorem accepts_of_mem_keys (h : p.Meets s d) {before after : List Creation} {c : Creation}
    (hc : p.creations = before ++ c :: after) {k : ForeignKey} (hk : k ∈ c.keys) :
    k.table = c.table.name ∧ HasColumn [c.table] k.table k.column ∧
      HasColumn ((before ++ [c]).map (·.table)) k.referencedTable k.referencedColumn := by
  have ⟨x, hx, hxk, hc, u, hm, hu⟩ := h.exists_placed hc hk
  subst hxk
  have ⟨t, ht, hname, hcol⟩ := (h.accounts.fits x hx).owner
  have ⟨v, hv, hcol'⟩ := (h.accounts.fits x hx).target
  obtain rfl := Option.some.inj (ht.symm.trans hc)
  obtain rfl := Option.some.inj (hv.symm.trans hu)
  exact ⟨hname.symm, ⟨_, List.mem_singleton_self _, hname, hcol⟩, v, hm, hcol'⟩

theorem accepts_of_mem_deferred (h : p.Meets s d) {k : ForeignKey} (hk : k ∈ p.deferred) :
    Database.Accepts (p.creations.map (·.table)) k := by
  have ⟨x, hx, hxk⟩ := Demand.exists_key_of_mem_deferred (h.deferred ▸ hk)
  subst hxk
  have ⟨t, ht, htk⟩ := (h.accounts.fits x hx).owner
  have ⟨u, hu, huk⟩ := (h.accounts.fits x hx).target
  rw [← h.synthesized] at ht hu
  have hmem {i : Nat} {t : Table} (ht : (s.tables ++ p.synthesized)[i]? = some t) :
      t ∈ p.creations.map (·.table) :=
    h.tables_perm.mem_iff.mpr (List.mem_of_getElem? ht)
  exact ⟨⟨t, hmem ht, htk⟩, ⟨u, hmem hu, huk⟩⟩

theorem nodup_tableNames (h : p.Meets s d) (hn : (s.tables.map (·.name)).Nodup) :
    ((p.creations.map (·.table)).map (·.name)).Nodup :=
  (h.tables_perm.map _).nodup_iff.mpr (h.nodup_names hn)

theorem execute_eq (h : p.Meets s d) (hn : (s.tables.map (·.name)).Nodup) :
    p.execute = some (p.creations.map (·.table)) := by
  have hc : p.creations.foldlM Database.create [] = some (p.creations.map (·.table)) := by
    refine Database.foldlM_create (h.nodup_tableNames hn) fun before c after hc k hk => ?_
    have ⟨hname, hcol, href⟩ := h.accepts_of_mem_keys hc hk
    refine ⟨hname, hcol.mono ?_, href⟩
    simp
  rw [Plan.execute, hc]
  exact Database.foldlM_alter fun k => h.accepts_of_mem_deferred

end Plan.Meets

-- Every table is created exactly once, each key finds its columns where it is declared or added,
-- and so the whole plan can be carried out.
theorem Schema.plan_executable {s : Schema} {p : Plan} (hn : (s.tables.map (·.name)).Nodup)
    (hp : s.plan = .ok p) :
    (p.creations.map (·.table)).Perm (s.tables ++ p.synthesized) ∧
    p.tableNames.Nodup ∧
    (∀ before c after, p.creations = before ++ c :: after → ∀ k ∈ c.keys,
      k.table = c.table.name ∧ HasColumn [c.table] k.table k.column ∧
      HasColumn ((before ++ [c]).map (·.table)) k.referencedTable k.referencedColumn) ∧
    (∀ k ∈ p.deferred,
      HasColumn (p.creations.map (·.table)) k.table k.column ∧
      HasColumn (p.creations.map (·.table)) k.referencedTable k.referencedColumn) ∧
    p.execute = some (p.creations.map (·.table)) := by
  have ⟨d, h⟩ := Schema.exists_meets hp
  refine ⟨h.tables_perm, ?_, ?_, ?_, h.execute_eq hn⟩
  · have := h.nodup_tableNames hn
    rwa [List.map_map] at this
  · exact fun before c after hc k hk => h.accepts_of_mem_keys hc hk
  · exact fun k hk => h.accepts_of_mem_deferred hk

-- Departments and people reference each other, people know people and work on projects, which is
-- declared from both sides and once more through a table, and one name for a join table is taken.
namespace Staff

def department : Table where
  name := "department"
  columns := [{ name := "id", type := "INT", primaryKey := true }, { name := "head", type := "INT" }]
  relationships := [⟨.oneToMany, "person", "head", "id", none⟩]

def person : Table where
  name := "person"
  columns := [{ name := "id", type := "INT", primaryKey := true }, { name := "unit", type := "INT" }]
  relationships := [
    ⟨.oneToMany, "department", "unit", "id", none⟩, ⟨.manyToMany, "person", "id", "id", none⟩,
    ⟨.manyToMany, "project", "id", "code", none⟩]

def project : Table where
  name := "project"
  columns := [{ name := "code", type := "TEXT", primaryKey := true }]
  relationships := [
    ⟨.manyToMany, "person", "code", "id", none⟩, ⟨.manyToMany, "person", "code", "id", some "role"⟩]

def role : Table where
  name := "role"
  columns := [{ name := "id", type := "INT" }, { name := "code", type := "TEXT" }]
  joinTable := true

def taken : Table where
  name := "Person_Person"
  columns := [{ name := "note", type := "TEXT" }]

def acquaintance : Table where
  name := "person_person_2"
  columns := [
    { name := "person_id", type := "INT", primaryKey := true },
    { name := "person_id_2", type := "INT", primaryKey := true }]
  joinTable := true

def assignment : Table where
  name := "person_project"
  columns := [
    { name := "id", type := "INT", primaryKey := true },
    { name := "code", type := "TEXT", primaryKey := true }]
  joinTable := true

def schema : Schema where
  tables := [department, person, project, role, taken]

def plan : Plan where
  creations := [
    ⟨department, []⟩,
    ⟨person, [⟨"person", "unit", "department", "id"⟩]⟩,
    ⟨project, []⟩,
    ⟨role, [⟨"role", "code", "project", "code"⟩, ⟨"role", "id", "person", "id"⟩]⟩,
    ⟨taken, []⟩,
    ⟨acquaintance, [
      ⟨"person_person_2", "person_id", "person", "id"⟩,
      ⟨"person_person_2", "person_id_2", "person", "id"⟩]⟩,
    ⟨assignment, [
      ⟨"person_project", "id", "person", "id"⟩, ⟨"person_project", "code", "project", "code"⟩]⟩]
  deferred := [⟨"department", "head", "person", "id"⟩]
  synthesized := [acquaintance, assignment]
  cycles := [["department", "person"]]

theorem nodup_names : (schema.tables.map (·.name)).Nodup := by
  decide

theorem plan_eq : schema.plan = .ok plan := by
  rfl

end Staff

theorem plan_executable_staff :
    (Staff.schema.tables.map (·.name)).Nodup ∧ Staff.schema.plan = .ok Staff.plan ∧
    Staff.plan.execute = some (Staff.plan.creations.map (·.table)) :=
  have h := Schema.plan_executable Staff.nodup_names Staff.plan_eq
  ⟨Staff.nodup_names, Staff.plan_eq, h.right.right.right.right⟩

end Relational
