import Mathlib.Data.List.Nodup
import Relational.Proofs.Except
import Relational.Schema.Naming

namespace Relational

def Column.namingFault? (table : String) (before : List Column) (c : Column) :
    Option NamingError :=
  if Text.isBlankText c.name then some (.emptyColumnName table)
  else if Text.isBlankText c.type then some (.emptyColumnType table c.name)
  else if c.name ∈ before.map (·.name) then some (.duplicateColumn table c.name)
  else none

namespace Table

structure WellNamed (t : Table) : Prop where
  name : Text.isBlankText t.name = false
  columns : ∀ c ∈ t.columns, Text.isBlankText c.name = false ∧ Text.isBlankText c.type = false
  columnsDiffer : (t.columns.map (·.name)).Nodup

theorem checkColumns_eq_ok {table : String} {seen : List String} {columns : List Column} :
    checkColumns table seen columns = .ok () ↔
      (∀ c ∈ columns, Text.isBlankText c.name = false ∧ Text.isBlankText c.type = false) ∧
        (columns.map (·.name)).Nodup ∧ ∀ c ∈ columns, c.name ∉ seen := by
  induction columns generalizing seen
  case nil => simp [checkColumns]
  case cons c columns hi =>
    unfold checkColumns
    split_ifs with hn ht hs
    case pos => simp [hn]
    case pos => simp [ht]
    case pos => simp [hs]
    case neg =>
      simp only [Bool.not_eq_true] at hn ht
      simp only [hi, List.mem_cons, List.map_cons, List.nodup_cons, List.mem_map, not_or,
        forall_eq_or_imp, hn, ht, hs]
      grind

theorem checkNames_eq_ok {t : Table} : t.checkNames = .ok () ↔ t.WellNamed := by
  unfold checkNames
  split_ifs with h
  case pos => simpa using fun hn : t.WellNamed => by simp [hn.name] at h
  case neg =>
    rw [checkColumns_eq_ok]
    exact ⟨fun hc => ⟨by simpa using h, hc.1, hc.2.1⟩,
      fun hn => ⟨hn.columns, hn.columnsDiffer, by simp⟩⟩

def namingFault? (t : Table) : Option NamingError :=
  if Text.isBlankText t.name then some .emptyTableName
  else firstFault? (Column.namingFault? t.name) [] t.columns

def repeatFault? (before : List Table) (t : Table) : Option NamingError :=
  ((before.map (·.name)).idxOf? t.name).map fun first =>
    .duplicateTable ⟨t.name, first, before.length⟩

theorem failure?_checkColumns {table : String} {seen : List String} {before columns : List Column}
    (h : ∀ name, name ∈ seen ↔ name ∈ before.map (·.name)) :
    failure? (checkColumns table seen columns) =
      firstFault? (Column.namingFault? table) before columns := by
  induction columns generalizing seen before
  case nil => rfl
  case cons c columns hi =>
    simp only [checkColumns, firstFault?, Column.namingFault?, h]
    split_ifs
    case neg => exact (hi (by simp [h, or_comm])).trans Option.none_or.symm
    all_goals rfl

theorem failure?_checkNames (t : Table) : failure? t.checkNames = t.namingFault? := by
  unfold checkNames namingFault?
  split_ifs
  case pos => rfl
  case neg => exact failure?_checkColumns (by simp)

instance (t : Table) : Decidable t.WellNamed :=
  decidable_of_iff (t.namingFault? = none) <| by
    rw [← failure?_checkNames, failure?_eq_none]
    exact Unique.exists_iff.trans checkNames_eq_ok

end Table

theorem namingConflictsAfter_eq_nil {before : List String} {tables : List Table} :
    namingConflictsAfter before tables = [] ↔
      (tables.map (·.name)).Nodup ∧ ∀ t ∈ tables, t.name ∉ before := by
  induction tables generalizing before
  case nil => simp [namingConflictsAfter]
  case cons t tables hi =>
    unfold namingConflictsAfter
    split
    case h_1 hb =>
      have hm : t.name ∈ before := by
        by_contra hm
        simp [List.idxOf?_eq_none_iff.mpr hm] at hb
      simp [hm]
    case h_2 hb =>
      have hm := List.idxOf?_eq_none_iff.mp hb
      rw [hi]
      grind

theorem namingConflicts_eq_nil {tables : List Table} :
    namingConflicts tables = [] ↔ (tables.map (·.name)).Nodup := by
  simp [namingConflicts, namingConflictsAfter_eq_nil]

theorem checkNames_eq_ok {tables : List Table} :
    checkNames tables = .ok () ↔ (∀ t ∈ tables, t.WellNamed) ∧ (tables.map (·.name)).Nodup := by
  simp only [checkNames, bind_eq_ok, List.forM_eq_forM, forM_eq_ok, Table.checkNames_eq_ok,
    ← namingConflicts_eq_nil]
  cases namingConflicts tables
  case nil => simp
  case cons => simp

theorem head?_namingConflictsAfter (before tables : List Table) :
    (namingConflictsAfter (before.map (·.name)) tables).head?.map .duplicateTable =
      firstFault? Table.repeatFault? before tables := by
  induction tables generalizing before
  case nil => rfl
  case cons t tables hi =>
    have hi := hi (before ++ [t])
    rw [List.map_append] at hi
    rw [firstFault?, ← hi, namingConflictsAfter, Table.repeatFault?]
    cases (before.map (·.name)).idxOf? t.name
    case none => rfl
    case some first => simp

-- The table that is reported is the first one whose name is not new: the names before it differ.
theorem firstFault?_repeatFault? {tables : List Table} {e : NamingError} :
    firstFault? Table.repeatFault? [] tables = some e ↔
      ∃ front t back, tables = front ++ t :: back ∧ (front.map (·.name)).Nodup ∧
        Table.repeatFault? front t = some e := by
  have hn (front : List Table) :
      firstFault? Table.repeatFault? [] front = none ↔ (front.map (·.name)).Nodup := by
    rw [← head?_namingConflictsAfter, Option.map_eq_none_iff, List.head?_eq_none_iff,
      namingConflictsAfter_eq_nil]
    simp
  simp only [firstFault?_eq_some, hn, List.nil_append]

theorem failure?_checkNames (tables : List Table) :
    failure? (checkNames tables) =
      (tables.findSome? Table.namingFault?).or (firstFault? Table.repeatFault? [] tables) := by
  have hf : tables.findSome? Table.namingFault? = failure? (forM tables Table.checkNames) := by
    simp only [failure?_forM, Table.failure?_checkNames]
  rw [hf, ← head?_namingConflictsAfter]
  refine failure?_bind fun _ _ => ?_
  rw [namingConflicts, List.map_nil]
  cases namingConflictsAfter [] tables
  case nil => rfl
  case cons => rfl

end Relational
