import Mathlib.Data.List.Nodup
import Relational.Proofs.Text.Trim
import Relational.Schema.Basic

namespace Relational

structure Column.WellFormed (c : Column) : Prop where
  name : Text.Tidy c.name
  type : Text.Tidy c.type

instance (c : Column) : Decidable c.WellFormed :=
  decidable_of_iff (Text.Tidy c.name ∧ Text.Tidy c.type)
    ⟨fun h => ⟨h.1, h.2⟩, fun h => ⟨h.name, h.type⟩⟩

structure Relationship.WellFormed (r : Relationship) : Prop where
  relatedTable : Text.Tidy r.relatedTable
  foreignKey : Text.Tidy r.foreignKey
  relatedForeignKey : Text.Tidy r.relatedForeignKey
  throughTable : ∀ name ∈ r.throughTable, Text.Tidy name
  oneToMany : r.kind = .oneToMany → r.throughTable = none

instance (r : Relationship) : Decidable r.WellFormed :=
  decidable_of_iff
    (Text.Tidy r.relatedTable ∧ Text.Tidy r.foreignKey ∧ Text.Tidy r.relatedForeignKey ∧
      (∀ name ∈ r.throughTable, Text.Tidy name) ∧ (r.kind = .oneToMany → r.throughTable = none))
    ⟨fun ⟨ht, hf, hr, hn, ho⟩ => ⟨ht, hf, hr, hn, ho⟩,
      fun ⟨ht, hf, hr, hn, ho⟩ => ⟨ht, hf, hr, hn, ho⟩⟩

structure Table.WellFormed (t : Table) : Prop where
  name : Text.Tidy t.name
  columns : ∀ c ∈ t.columns, c.WellFormed
  columnsDiffer : (t.columns.map (·.name)).Nodup
  relationships : ∀ r ∈ t.relationships, r.WellFormed

instance (t : Table) : Decidable t.WellFormed :=
  decidable_of_iff
    (Text.Tidy t.name ∧ (∀ c ∈ t.columns, c.WellFormed) ∧ (t.columns.map (·.name)).Nodup ∧
      ∀ r ∈ t.relationships, r.WellFormed)
    ⟨fun ⟨hn, hc, hd, hr⟩ => ⟨hn, hc, hd, hr⟩, fun ⟨hn, hc, hd, hr⟩ => ⟨hn, hc, hd, hr⟩⟩

namespace Schema

variable {s : Schema}

structure WellFormed (s : Schema) : Prop where
  tables : ∀ t ∈ s.tables, t.WellFormed
  tablesDiffer : (s.tables.map (·.name)).Nodup

instance (s : Schema) : Decidable s.WellFormed :=
  decidable_of_iff ((∀ t ∈ s.tables, t.WellFormed) ∧ (s.tables.map (·.name)).Nodup)
    ⟨fun h => ⟨h.1, h.2⟩, fun h => ⟨h.tables, h.tablesDiffer⟩⟩

def GoesThrough (s : Schema) (name : String) : Prop :=
  ∃ t ∈ s.tables, ∃ r ∈ t.relationships, r.throughTable = some name

def ThroughMarked (s : Schema) : Prop :=
  ∀ t ∈ s.tables, s.GoesThrough t.name → t.joinTable = true

theorem mem_throughTables_iff {name : String} : name ∈ s.throughTables ↔ s.GoesThrough name := by
  simp only [throughTables, relationships, List.mem_filterMap, List.mem_flatMap, GoesThrough]
  grind

instance (s : Schema) (name : String) : Decidable (s.GoesThrough name) :=
  decidable_of_iff _ mem_throughTables_iff

instance (s : Schema) : Decidable s.ThroughMarked :=
  inferInstanceAs (Decidable (∀ t ∈ s.tables, s.GoesThrough t.name → t.joinTable = true))

def marked (s : Schema) (t : Table) : Table :=
  { t with joinTable := t.joinTable || decide (s.GoesThrough t.name) }

theorem tables_markThroughTables (s : Schema) :
    s.markThroughTables.tables = s.tables.map s.marked := by
  simp [markThroughTables, marked, ← mem_throughTables_iff]

theorem names_markThroughTables (s : Schema) :
    s.markThroughTables.tables.map (·.name) = s.tables.map (·.name) := by
  rw [tables_markThroughTables, List.map_map]
  rfl

theorem relationships_eq_flatten (s : Schema) :
    s.relationships = (s.tables.map (·.relationships)).flatten :=
  List.flatMap_def ..

theorem goesThrough_congr {s' : Schema}
    (h : s'.tables.map (·.relationships) = s.tables.map (·.relationships)) (name : String) :
    s'.GoesThrough name ↔ s.GoesThrough name := by
  rw [← mem_throughTables_iff, ← mem_throughTables_iff, throughTables, throughTables,
    relationships_eq_flatten, relationships_eq_flatten, h]

theorem goesThrough_markThroughTables (s : Schema) (name : String) :
    s.markThroughTables.GoesThrough name ↔ s.GoesThrough name :=
  goesThrough_congr (by simp [tables_markThroughTables, marked]) name

theorem throughMarked_markThroughTables (s : Schema) : s.markThroughTables.ThroughMarked := by
  intro t ht h
  rw [tables_markThroughTables] at ht
  obtain ⟨u, _, rfl⟩ := List.mem_map.mp ht
  simpa [marked] using .inr ((goesThrough_markThroughTables s u.name).mp h)

theorem marked_eq_self {t : Table} (h : s.GoesThrough t.name → t.joinTable = true) :
    s.marked t = t := by
  have hj : (t.joinTable || decide (s.GoesThrough t.name)) = t.joinTable := by
    cases hj : t.joinTable
    case true => rfl
    case false => simpa [hj] using h
  rw [marked, hj]

theorem tables_markThroughTables_eq (h : s.ThroughMarked) :
    s.markThroughTables.tables = s.tables := by
  have hm : ∀ t ∈ s.tables, s.marked t = id t := fun t ht => marked_eq_self (h t ht)
  rw [tables_markThroughTables, List.map_congr_left hm, List.map_id]

end Schema

end Relational
