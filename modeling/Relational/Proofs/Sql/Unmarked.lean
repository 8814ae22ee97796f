import Relational.Proofs.Except
import Relational.Sql.Generate

namespace Relational

def Table.unmarked (t : Table) : Table :=
  { t with joinTable := false }

def Endpoint.unmarked (e : Endpoint) : Endpoint :=
  { e with table := e.table.unmarked }

def Creation.unmarked (c : Creation) : Creation :=
  { c with table := c.table.unmarked }

variable {tables : List Table}

theorem findTable?_map_unmarked (tables : List Table) (name : String) :
    findTable? (tables.map Table.unmarked) name =
      (findTable? tables name).map fun (place, t) => (place, t.unmarked) := by
  simp only [findTable?, List.zipIdx_map, ← List.map_reverse, List.find?_map, Option.map_map]
  rfl

theorem endpoint_unmarked (owner related : String) (place : Nat) (t : Table) (column : String) :
    endpoint owner related place t.unmarked column =
      (endpoint owner related place t column).map Endpoint.unmarked := by
  have hc : t.unmarked.column? column = t.column? column := rfl
  unfold endpoint
  rw [hc]
  cases t.column? column <;> rfl

namespace Demand

theorem addJoin_unmarked (d : Demand) (left right : Endpoint) :
    d.addJoin (tables.map Table.unmarked) left.unmarked right.unmarked =
      d.addJoin tables left right := by
  have ht : (tables.map Table.unmarked ++ d.synthesized).map (fun t => Text.lowercase t.name) =
      (tables ++ d.synthesized).map fun t => Text.lowercase t.name := by
    simp [Table.unmarked]
  simp only [addJoin, ht, List.length_map]
  rfl

theorem add_unmarked (place : Nat) (owner : Table) (d : Demand) (r : Relationship) :
    d.add (tables.map Table.unmarked) place owner.unmarked r = d.add tables place owner r := by
  have ho : owner.unmarked.name = owner.name := rfl
  simp only [add, ho]
  rw [findTable?_map_unmarked]
  cases findTable? tables r.relatedTable
  case none => rfl
  case some found =>
    have hr : found.2.unmarked.name = found.2.name := rfl
    simp only [Option.map_some, ok_bind, endpoint_unmarked, hr, bind_exceptMap]
    refine bind_congr fun left => bind_congr fun right => ?_
    split
    case h_1 => rfl
    case h_2 => rw [addJoin_unmarked]
    case h_3 name _ _ =>
      rw [findTable?_map_unmarked]
      cases findTable? tables name
      case none => rfl
      case some =>
        simp only [Option.map_some, endpoint_unmarked, bind_exceptMap]
        rfl

theorem ofTables_map_unmarked (tables : List Table) :
    ofTables (tables.map Table.unmarked) = ofTables tables := by
  simp only [ofTables, List.zipIdx_map, List.foldlM_map]
  congr
  funext d owner
  exact congrArg (fun add => owner.1.relationships.foldlM add d)
    (funext fun d => funext fun r => add_unmarked owner.2 owner.1 d r)

theorem creations_unmarked (d : Demand) (created order : List Nat) :
    d.creations (tables.map Table.unmarked) created order =
      (d.creations tables created order).map Creation.unmarked := by
  induction order generalizing created
  case nil => rfl
  case cons place rest hi =>
    rw [creations, hi, creations, List.map_cons, List.getElem?_map]
    cases tables[place]? <;> rfl

end Demand

namespace Sql

variable (d : Dialect)

theorem defineTables_unmarked (used : UsedNames) (creations : List Creation) :
    defineTables d used (creations.map Creation.unmarked) = defineTables d used creations := by
  induction creations generalizing used
  case nil => rfl
  case cons c creations hi =>
    have hc : defineTable d used c.unmarked = defineTable d used c := rfl
    simp only [List.map_cons, defineTables, hc, hi]

end Sql

structure Plan.SameScript (p q : Plan) : Prop where
  creations : p.creations.map Creation.unmarked = q.creations.map Creation.unmarked
  deferred : p.deferred = q.deferred

theorem Plan.SameScript.script_eq {p q : Plan} (h : p.SameScript q) (d : Dialect) :
    p.script d = q.script d := by
  unfold script
  rw [← Sql.defineTables_unmarked, h.creations, Sql.defineTables_unmarked, h.deferred]

namespace Schema

def unmarked (s : Schema) : Schema :=
  { s with tables := s.tables.map Table.unmarked }

theorem plan_unmarked (s : Schema) :
    (∃ e, s.unmarked.plan = .error e ∧ s.plan = .error e) ∨
      ∃ p q, s.unmarked.plan = .ok p ∧ s.plan = .ok q ∧ p.SameScript q := by
  unfold plan
  rw [unmarked, Demand.ofTables_map_unmarked]
  cases Demand.ofTables s.tables
  case error e => exact .inl ⟨e, by rw [error_bind], by rw [error_bind]⟩
  case ok d =>
    refine .inr ⟨_, _, ok_bind .., ok_bind .., ?_⟩
    constructor
    case creations =>
      simp only [List.length_append, List.length_map, ← Demand.creations_unmarked, List.map_append,
        List.map_map]
      rfl
    case deferred => simp only [List.length_append, List.length_map]

theorem generate_unmarked (d : Dialect) (s : Schema) : s.unmarked.generate d = s.generate d := by
  unfold generate
  obtain ⟨e, hu, hs⟩ | ⟨p, q, hu, hs, h⟩ := s.plan_unmarked
  case inl => rw [hu, hs]
  case inr => simp only [hu, hs, Except.mapError, ok_bind, h.script_eq]

theorem generate_congr {s s' : Schema}
    (h : s.tables.map Table.unmarked = s'.tables.map Table.unmarked) (d : Dialect) :
    s.generate d = s'.generate d := by
  rw [← generate_unmarked, ← generate_unmarked d s']
  unfold generate plan
  rw [unmarked, unmarked, h]

end Schema

end Relational
