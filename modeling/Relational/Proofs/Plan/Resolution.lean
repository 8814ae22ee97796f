import Relational.Proofs.Plan.Synthesis

namespace Relational

inductive Need where
  | related (table : String)
  | through (table : String)
  | column (table name : String)
  deriving DecidableEq, Repr

def Need.MetBy (tables : List Table) : Need → Prop
  | related name | through name => name ∈ tables.map (·.name)
  | column table name           => HasColumn tables table name

instance {tables : List Table} : (n : Need) → Decidable (n.MetBy tables)
  | .related name | .through name => inferInstanceAs (Decidable (name ∈ tables.map (·.name)))
  | .column table name            => inferInstanceAs (Decidable (HasColumn tables table name))

namespace Declaration

variable (e : Declaration)

def needs : List Need :=
  [.related e.right.1, .column e.left.1 e.left.2, .column e.right.1 e.right.2] ++
    match e.relationship.kind, e.relationship.throughTable with
    | .manyToMany, some name => [.through name, .column name e.left.2, .column name e.right.2]
    | _, _                   => []

def complaint : Need → PlanError
  | .related name      => .unknownTable e.left.1 name
  | .through name      => .unknownThroughTable e.left.1 e.right.1 name
  | .column table name => .unknownColumn e.left.1 e.right.1 table name

def complaint? (tables : List Table) (n : Need) : Option PlanError :=
  if n.MetBy tables then none else some (e.complaint n)

def fault? (tables : List Table) : Option PlanError :=
  e.needs.findSome? (e.complaint? tables)

end Declaration

section

variable {tables : List Table} {place : Nat} {t : Table} {e : Declaration} {name table : String}
variable {names : String × String} {p q : Endpoint} {needs : List Need}

theorem findTable?_eq (hn : (tables.map (·.name)).Nodup) (h : tables[place]? = some t) :
    findTable? tables t.name = some (place, t) := by
  have hn : (tables.zipIdx.reverse.map (·.1.name)).Nodup := by
    have he : tables.zipIdx.map (·.1.name) = tables.map (·.name) := by
      rw [← List.zipIdx_map_fst 0 tables, List.map_map, List.zipIdx_map_fst]
      rfl
    rwa [List.map_reverse, List.nodup_reverse, he]
  have hm : (t, place) ∈ tables.zipIdx.reverse :=
    List.mem_reverse.mpr (List.mem_zipIdx_iff_getElem?.mpr h)
  refine Option.map_eq_some_iff.mpr ⟨(t, place), ?_, rfl⟩
  rw [← find?_eq_some_of_nodup hn hm]
  rfl

theorem findTable?_cases (hn : (tables.map (·.name)).Nodup) (name : String) :
    (name ∉ tables.map (·.name) ∧ findTable? tables name = none) ∨
      ∃ place t, name ∈ tables.map (·.name) ∧ findTable? tables name = some (place, t) ∧
        tables[place]? = some t ∧ t.name = name := by
  by_cases hm : name ∈ tables.map (·.name)
  case pos =>
    obtain ⟨t, ht, rfl⟩ := List.mem_map.mp hm
    have ⟨place, hp⟩ := List.mem_iff_getElem?.mp ht
    exact .inr ⟨place, t, hm, findTable?_eq hn hp, hp, rfl⟩
  case neg =>
    refine .inl ⟨hm, Option.eq_none_iff_forall_not_mem.mpr fun (place, t) hf => hm ?_⟩
    have ⟨hp, ht⟩ := getElem?_of_findTable? hf
    exact List.mem_map.mpr ⟨t, List.mem_of_getElem? hp, ht⟩

theorem Endpoint.At.eq (hn : (tables.map (·.name)).Nodup) (h : p.At tables names)
    (h' : q.At tables names) : p = q := by
  have hp := findTable?_eq hn h.place
  rw [h.table, ← h'.table, findTable?_eq hn h'.place] at hp
  obtain ⟨hp, ht⟩ := Prod.mk.inj (Option.some.inj hp)
  have hc := h.column
  rw [← ht, h'.column] at hc
  rcases p with ⟨_, _, _⟩
  rcases q with ⟨_, _, _⟩
  cases hp
  cases ht
  cases hc
  rfl

theorem exists_at_iff : (∃ p : Endpoint, p.At tables names) ↔ HasColumn tables names.1 names.2 := by
  constructor
  · rintro ⟨p, hp⟩
    exact ⟨p.table, hp.mem, hp.table, by simp [Table.hasColumn, hp.column]⟩
  · rintro ⟨t, ht, htable, hc⟩
    obtain ⟨place, hp⟩ := List.mem_iff_getElem?.mp ht
    obtain ⟨c, hc⟩ := Option.isSome_iff_exists.mp hc
    exact ⟨⟨place, t, c⟩, hp, htable, hc⟩

theorem hasColumn_iff (hn : (tables.map (·.name)).Nodup) (ht : tables[place]? = some t) :
    HasColumn tables t.name name ↔ t.hasColumn name := by
  constructor
  · intro ⟨u, hu, heq, hc⟩
    exact eq_of_name_eq hn hu (List.mem_of_getElem? ht) heq ▸ hc
  · exact fun hc => ⟨t, List.mem_of_getElem? ht, rfl, hc⟩

namespace Declaration

theorem fault?_eq_none_iff : e.fault? tables = none ↔ ∀ n ∈ e.needs, n.MetBy tables := by
  simp [fault?, complaint?]

theorem forall_needs_iff {P : Need → Prop} :
    (∀ n ∈ e.needs, P n) ↔
      (P (.related e.right.1) ∧ P (.column e.left.1 e.left.2) ∧ P (.column e.right.1 e.right.2)) ∧
      ∀ name, e.relationship.kind = .manyToMany → e.relationship.throughTable = some name →
        P (.through name) ∧ P (.column name e.left.2) ∧ P (.column name e.right.2) := by
  rw [needs, List.forall_mem_append]
  refine and_congr (by simp) ?_
  split
  case h_1 hk ht => simp [hk, ht]
  case h_2 hne   => simpa using fun name hk ht => absurd ht (hne name hk)

theorem resolves_iff : e.Resolves tables ↔ ∀ n ∈ e.needs, n.MetBy tables := by
  have hmem {name column : String} (h : HasColumn tables name column) :
      name ∈ tables.map (·.name) :=
    have ⟨_, ht, hname, _⟩ := h
    List.mem_map.mpr ⟨_, ht, hname⟩
  rw [forall_needs_iff]
  constructor
  · intro h
    have hl := exists_at_iff.mp h.left
    have hr := exists_at_iff.mp h.right
    refine ⟨⟨hmem hr, hl, hr⟩, fun name hk ht => ?_⟩
    have ⟨htl, htr⟩ := h.through name hk ht
    have htl := exists_at_iff.mp htl
    exact ⟨hmem htl, htl, exists_at_iff.mp htr⟩
  · intro ⟨⟨_, hl, hr⟩, ht⟩
    refine ⟨exists_at_iff.mpr hl, exists_at_iff.mpr hr, fun name hk hname => ?_⟩
    have ⟨_, htl, htr⟩ := ht name hk hname
    exact ⟨exists_at_iff.mpr htl, exists_at_iff.mpr htr⟩

theorem failure?_endpoint (hn : (tables.map (·.name)).Nodup) (ht : tables[place]? = some t) :
    failure? (endpoint e.left.1 e.right.1 place t name) =
      e.complaint? tables (.column t.name name) := by
  have hm : Need.MetBy tables (.column t.name name) ↔ t.hasColumn name := hasColumn_iff hn ht
  simp only [endpoint, complaint?, hm, Table.hasColumn]
  cases t.column? name <;> rfl

theorem failure?_endpoint_bind (hn : (tables.map (·.name)).Nodup) (ht : tables[place]? = some t)
    (htable : t.name = table) {f : Endpoint → Except PlanError Demand}
    (h : ∀ p, failure? (f p) = needs.findSome? (e.complaint? tables)) :
    failure? (endpoint e.left.1 e.right.1 place t name >>= f) =
      (Need.column table name :: needs).findSome? (e.complaint? tables) := by
  rw [findSome?_cons_or, ← htable, ← failure?_endpoint hn ht]
  exact failure?_bind fun p _ => h p

theorem findSome?_complaint?_of_met {n : Need} (h : n.MetBy tables) :
    (n :: needs).findSome? (e.complaint? tables) = needs.findSome? (e.complaint? tables) := by
  rw [findSome?_cons_or, complaint?, if_pos h, Option.none_or]

theorem findSome?_complaint?_of_not_met {n : Need} (h : ¬n.MetBy tables) :
    (n :: needs).findSome? (e.complaint? tables) = some (e.complaint n) := by
  rw [findSome?_cons_or, complaint?, if_neg h, Option.some_or]

end Declaration

open Declaration in
theorem Demand.failure?_add (hn : (tables.map (·.name)).Nodup)
    (ho : tables[place]? = some e.owner) (d : Demand) :
    failure? (Demand.add tables place e.owner d e.relationship) = e.fault? tables := by
  rw [fault?, Declaration.needs, List.cons_append]
  rcases findTable?_cases hn e.right.1 with ⟨hm, hf⟩ | ⟨_, _, hm, hf, hp, hr⟩
  case inl =>
    rw [findSome?_complaint?_of_not_met (n := .related e.right.1) hm]
    simp only [Demand.add, show findTable? tables e.relationship.relatedTable = none from hf,
      error_bind]
    rfl
  case inr =>
    rw [findSome?_complaint?_of_met (n := .related e.right.1) hm]
    simp only [Demand.add, show findTable? tables e.relationship.relatedTable = some _ from hf,
      ok_bind, hr]
    -- The two ends of every relationship, and after them those of a through-table.
    refine failure?_endpoint_bind hn ho rfl fun left => ?_
    refine failure?_endpoint_bind hn hp hr fun right => ?_
    cases e.relationship.kind
    case oneToMany => rfl
    case manyToMany =>
      cases e.relationship.throughTable
      case none => rfl
      case some through =>
        change _ = [.through through, .column through e.left.2, .column through e.right.2].findSome?
          (e.complaint? tables)
        rcases findTable?_cases hn through with ⟨hm, hf⟩ | ⟨_, _, hm, hf, hp, hr⟩
        case inl =>
          rw [findSome?_complaint?_of_not_met (n := .through through) hm]
          simp only [hf]
          rfl
        case inr =>
          rw [findSome?_complaint?_of_met (n := .through through) hm]
          simp only [hf]
          refine failure?_endpoint_bind hn hp hr fun toLeft => ?_
          exact failure?_endpoint_bind hn hp hr fun toRight => rfl

theorem findSome?_declarations (f : Declaration → Option PlanError) :
    (declarations tables).findSome? f =
      tables.findSome? fun t => t.relationships.findSome? fun r => f ⟨t, r⟩ := by
  induction tables
  case nil => rfl
  case cons t tables hi =>
    rw [findSome?_cons_or, ← hi, declarations, List.flatMap_cons, List.findSome?_append,
      List.findSome?_map]
    rfl

theorem Demand.failure?_ofTables (hn : (tables.map (·.name)).Nodup) :
    failure? (Demand.ofTables tables) = (declarations tables).findSome? (·.fault? tables) := by
  have hadd : ∀ owner ∈ tables.zipIdx, ∀ d,
      failure? (owner.1.relationships.foldlM (Demand.add tables owner.2 owner.1) d) =
        owner.1.relationships.findSome? fun r => Declaration.fault? ⟨owner.1, r⟩ tables := by
    intro owner ho d
    refine failure?_foldlM (fun r _ d => ?_) d
    exact failure?_add (e := ⟨owner.1, r⟩) hn (List.mem_zipIdx_iff_getElem?.mp ho) d
  have hf := failure?_foldlM hadd {}
  have hz := List.findSome?_map (l := tables.zipIdx) (f := Prod.fst)
    (p := fun t : Table => t.relationships.findSome? fun r => Declaration.fault? ⟨t, r⟩ tables)
  rw [List.zipIdx_map_fst] at hz
  rw [findSome?_declarations, hz]
  exact hf

end

namespace Schema

variable {s : Schema}

theorem failure?_plan (hn : (s.tables.map (·.name)).Nodup) :
    failure? s.plan = s.declarations.findSome? (·.fault? s.tables) :=
  (failure?_bind_ok fun _ => ⟨_, rfl⟩).trans (Demand.failure?_ofTables hn)

theorem exists_plan_iff (hn : (s.tables.map (·.name)).Nodup) :
    (∃ p, s.plan = .ok p) ↔ ∀ e ∈ s.declarations, e.Resolves s.tables := by
  rw [← failure?_eq_none, failure?_plan hn, List.findSome?_eq_none_iff]
  refine forall₂_congr fun e _ => ?_
  rw [Declaration.fault?_eq_none_iff, Declaration.resolves_iff]

end Schema

-- There is a plan if and only if every relationship has what it needs. If not, the error is about
-- the first need that is not met, of the first relationship that has one: it names both of its
-- tables, and the table or column that is missing.
theorem Schema.plan_eq_error_iff {s : Schema} (hn : (s.tables.map (·.name)).Nodup) :
    ((∃ p, s.plan = .ok p) ↔ ∀ e ∈ s.declarations, ∀ n ∈ e.needs, n.MetBy s.tables) ∧
    ∀ error, s.plan = .error error ↔
      s.declarations.findSome? (fun e => e.needs.findSome? (e.complaint? s.tables)) =
        some error := by
  constructor
  case left =>
    rw [exists_plan_iff hn]
    exact forall₂_congr fun e _ => Declaration.resolves_iff
  case right => exact fun error => failure?_eq_some.symm.trans (failure?_plan hn ▸ .rfl)

namespace Staff

def incomplete : Schema where
  tables := [
    department, person, project, { role with columns := [{ name := "id", type := "INT" }] }]

end Staff

theorem plan_eq_error_iff_staff :
    (Staff.incomplete.tables.map (·.name)).Nodup ∧
    Staff.incomplete.plan = .error (.unknownColumn "project" "person" "role" "code") := by
  have hn : (Staff.incomplete.tables.map (·.name)).Nodup := by decide
  exact ⟨hn, ((Schema.plan_eq_error_iff hn).right _).mpr (by decide)⟩

end Relational
