import Relational.Proofs.Description.Parsed
import Relational.Proofs.Json.Layout
import Relational.Proofs.Sql.Unmarked
import Relational.Schema.Stored

namespace Relational

def Column.toRecord (c : Column) : ColumnRecord where
  name := c.name
  type := c.type
  primaryKey := c.primaryKey
  autoIncrement := c.autoIncrement

def Relationship.toRecord (r : Relationship) : RelationshipRecord where
  kind := some r.kind.name
  relatedTable := r.relatedTable
  foreignKey := r.foreignKey
  relatedForeignKey := some r.relatedForeignKey
  throughTable := r.throughTable

def Table.toRecord (t : Table) : TableRecord where
  name := t.name
  columns := t.columns.map (·.toRecord)
  relationships := t.relationships.map (·.toRecord)
  joinTable := t.joinTable

theorem textual_flagMember {n : Nat} {name : String} {flag : Bool} :
    ∀ m ∈ flagMember name flag, m.2.Textual n := by
  cases flag
  case false => simp [flagMember]
  case true => simpa [flagMember] using .bool

namespace Column

theorem textual_stored (c : Column) : c.toJson.Textual 1 := by
  refine .object fun m hm => ?_
  simp only [List.mem_append, List.mem_cons, List.not_mem_nil, or_false] at hm
  obtain ((rfl | rfl) | h) | h := hm
  case inl.inl.inl | inl.inl.inr => exact .text
  all_goals exact textual_flagMember m h

theorem decodeColumn_stored (c : Column) :
    Description.decodeColumn c.toJson.sorted = .ok c.toRecord := by
  obtain ⟨name, type, primaryKey, autoIncrement⟩ := c
  cases primaryKey <;> cases autoIncrement <;> rfl

end Column

namespace Relationship

theorem textual_stored (r : Relationship) : r.toJson.Textual 1 := by
  refine .object fun m hm => ?_
  simp only [List.mem_append, List.mem_cons, List.not_mem_nil, or_false, List.mem_map] at hm
  obtain (rfl | rfl | rfl | rfl) | ⟨_, _, rfl⟩ := hm
  all_goals exact .text

theorem decodeRelationship_stored (r : Relationship) :
    Description.decodeRelationship r.toJson.sorted = .ok r.toRecord := by
  obtain ⟨kind, relatedTable, foreignKey, relatedForeignKey, throughTable⟩ := r
  cases throughTable <;> rfl

end Relationship

namespace Table

theorem textual_stored (t : Table) : t.toJson.Textual 3 := by
  have hc : Json.Textual 2 (.array (t.columns.map (·.toJson))) :=
    .array_map Column.textual_stored _
  have hr : Json.Textual 2 (.array (t.relationships.map (·.toJson))) :=
    .array_map Relationship.textual_stored _
  refine .object fun m hm => ?_
  simp only [List.mem_append, List.mem_cons, List.not_mem_nil, or_false] at hm
  obtain ((rfl | rfl) | h) | h := hm
  case inl.inl.inl => exact .text
  case inl.inl.inr => exact hc
  case inl.inr =>
    split_ifs at h
    case pos => contradiction
    case neg => rwa [List.mem_singleton.mp h]
  case inr => exact textual_flagMember m h

def relationshipsMember (t : Table) : List (String × Json) :=
  if t.relationships.isEmpty then []
  else [("relationships", .array (Json.sortedItems (t.relationships.map (·.toJson))))]

theorem sorted_stored (t : Table) : t.toJson.sorted =
    .object (
      [("columns", .array (Json.sortedItems (t.columns.map (·.toJson))))] ++
      flagMember "joinTable" t.joinTable ++ t.relationshipsMember ++
      [("tableName", .text t.name)]) := by
  obtain ⟨name, columns, relationships, joinTable⟩ := t
  cases relationships <;> cases joinTable <;> rfl

theorem decodeTable_stored (t : Table) :
    Description.decodeTable t.toJson.sorted = .ok t.toRecord := by
  have hc := Json.mapM_decode Column.decodeColumn_stored t.columns
  have hr := Json.mapM_decode Relationship.decodeRelationship_stored t.relationships
  rw [sorted_stored]
  obtain ⟨name, columns, relationships, joinTable⟩ := t
  cases relationships <;> cases joinTable
  all_goals
    simp [-List.map_cons, relationshipsMember, flagMember, Description.decodeTable,
      Json.Shape.decode, Description.TableDraft.shape, Description.TableDraft.enter, Json.fillOnce,
      Json.decodeList, Json.decodeOption, hc, hr]
    rfl

end Table

theorem nonBlank?_of_tidy {s : String} (h : Text.Tidy s) : nonBlank? (some s) = some s := by
  simp [nonBlank?, h.trimmed, h.ne_empty]

namespace RelationshipKind

theorem ofText?_name (kind : RelationshipKind) : ofText? kind.name = some kind := by
  cases kind <;> decide

theorem tidy_name (kind : RelationshipKind) : Text.Tidy kind.name := by
  cases kind <;> decide

end RelationshipKind

namespace Relationship

variable {r : Relationship}

theorem kindOf_toRecord (r : Relationship) (table : String) :
    r.toRecord.kindOf table = .ok r.kind := by
  simp only [RelationshipRecord.kindOf, toRecord, nonBlank?_of_tidy r.kind.tidy_name,
    RelationshipKind.ofText?_name]

theorem nonBlank?_throughTable (h : r.WellFormed) : nonBlank? r.throughTable = r.throughTable := by
  cases ht : r.throughTable
  case none => rfl
  case some name => exact nonBlank?_of_tidy (h.throughTable name ht)

theorem toRelationship_toRecord (h : r.WellFormed) (table : String) :
    r.toRecord.toRelationship table = .ok r := by
  refine RelationshipRecord.toRelationship_eq_ok.mpr
    ⟨?relatedTable, ?foreignKey, r.kindOf_toRecord table, ?oneToMany, ?same⟩
  case relatedTable => exact h.relatedTable.trimmed ▸ h.relatedTable.ne_empty
  case foreignKey => exact h.foreignKey.trimmed ▸ h.foreignKey.ne_empty
  case oneToMany => exact fun hk => (nonBlank?_throughTable h).trans (h.oneToMany hk)
  case same =>
    simp only [toRecord, h.relatedTable.trimmed, h.foreignKey.trimmed,
      nonBlank?_of_tidy h.relatedForeignKey, nonBlank?_throughTable h, Option.getD_some]

end Relationship

theorem Column.toColumn_toRecord {c : Column} (h : c.WellFormed) : c.toRecord.toColumn = c := by
  simp only [ColumnRecord.toColumn, toRecord, h.name.trimmed, h.type.trimmed]

namespace Table

variable {t : Table}

theorem toTable_toRecord (h : t.WellFormed) : t.toRecord.toTable = .ok t := by
  have hc : t.toRecord.columns.map (·.toColumn) = t.columns := by
    rw [toRecord, List.map_map]
    have hc : ∀ c ∈ t.columns, c.toRecord.toColumn = id c := fun c hc =>
      Column.toColumn_toRecord (h.columns c hc)
    exact (List.map_congr_left hc).trans (List.map_id _)
  have hr : t.toRecord.relationships.mapM (·.toRelationship t.name) = .ok t.relationships := by
    rw [mapM_eq_ok, toRecord, List.forall₂_map_left_iff, List.forall₂_same]
    exact fun r hr => Relationship.toRelationship_toRecord (h.relationships r hr) t.name
  have hn : Text.trim t.toRecord.name = t.name := h.name.trimmed
  rw [TableRecord.toTable, hn, hr, hc]
  rfl

theorem WellFormed.wellNamed (h : t.WellFormed) : t.WellNamed where
  name := h.name.notBlank
  columns c hc := ⟨(h.columns c hc).name.notBlank, (h.columns c hc).type.notBlank⟩
  columnsDiffer := h.columnsDiffer

end Table

namespace Schema

variable {s : Schema}

theorem textual_stored (s : Schema) : s.toJson.Textual 4 :=
  .array_map Table.textual_stored s.tables

theorem readJson_toJsonText (s : Schema) :
    Description.readJson s.toJsonText.toUTF8 = .ok (s.tables.map (·.toRecord)) := by
  have hl : s.toJsonText.toList = s.toJson.pretty 0 ++ Json.newLine 0 := by
    simp [toJsonText, Json.toPrettyText, Json.newLine]
  obtain ⟨cs, hc⟩ : ∃ cs, s.toJson.pretty 0 ++ Json.newLine 0 = '[' :: cs := by
    unfold toJson
    cases s.tables <;> exact ⟨_, rfl⟩
  rw [Description.readJson, Description.fromUTF8?_toUTF8]
  simp only [hl, hc]
  rw [if_neg (by decide), ← hc, Description.tablesOfJsonText,
    s.textual_stored.parse_pretty (by decide)]
  exact Description.decodeTables_sortedItems Table.decodeTable_stored 1 s.tables

theorem ofRecords_toRecord (h : s.WellFormed) :
    ofRecords (s.tables.map (·.toRecord)) = .ok (markThroughTables { tables := s.tables }) := by
  refine ofRecords_eq_ok.mpr ⟨s.tables, ?_, fun t ht => (h.tables t ht).wellNamed, h.tablesDiffer,
    rfl⟩
  rw [mapM_eq_ok, List.forall₂_map_left_iff, List.forall₂_same]
  exact fun t ht => Table.toTable_toRecord (h.tables t ht)

theorem read_toJsonText (h : s.WellFormed) :
    read .json s.toJsonText.toUTF8 = .ok (markThroughTables { tables := s.tables }) :=
  read_eq_ok.mpr ⟨_, by rw [Description.records, readJson_toJsonText]; rfl, ofRecords_toRecord h⟩

theorem generate_markThroughTables (d : Dialect) (s : Schema) :
    (markThroughTables { tables := s.tables }).generate d = s.generate d := by
  refine generate_congr ?_ d
  rw [tables_markThroughTables, List.map_map]
  rfl

theorem sameStructure_markThroughTables (h : s.ThroughMarked) :
    s.sameStructure (markThroughTables { tables := s.tables }) = true := by
  have ht : (markThroughTables { tables := s.tables }).tables = s.tables :=
    tables_markThroughTables_eq h
  rw [sameStructure, ht]
  exact beq_self_eq_true s.tables

-- A well-formed schema is read again from what is stored of it: table by table the same, but that
-- through-tables are marked. The scripts, or the reasons why there are none, stay what they were.
-- Of a schema that was itself read from a description nothing changes at all.
theorem read_stored :
    (∀ s : Schema, s.WellFormed → ∃ again, read .json s.toJsonText.toUTF8 = .ok again ∧
      again.tables = s.tables.map (fun t =>
        { t with joinTable := t.joinTable || decide (s.GoesThrough t.name) }) ∧
      ∀ d, again.generate d = s.generate d) ∧
    ∀ (format : Format) (bytes : ByteArray) (s : Schema), read format bytes = .ok s →
      ∃ again, read .json s.toJsonText.toUTF8 = .ok again ∧ s.sameStructure again = true ∧
        ∀ d, again.generate d = s.generate d := by
  constructor
  · intro s h
    exact ⟨_, read_toJsonText h, tables_markThroughTables _,
      fun d => generate_markThroughTables d s⟩
  · intro format bytes s h
    have ⟨_, _, hs⟩ := read_eq_ok.mp h
    exact ⟨_, read_toJsonText (wellFormed_of_ofRecords hs),
      sameStructure_markThroughTables (throughMarked_of_ofRecords hs),
      fun d => generate_markThroughTables d s⟩

def unmarkedSchema : Schema := { tables := [
  { name := "\"a\\"
    columns := [{ name := "id\u0007", type := "INT", primaryKey := true, autoIncrement := true }]
    relationships := [
      { kind := .manyToMany, relatedTable := "b", foreignKey := "id\u0007"
        relatedForeignKey := "id", throughTable := some "[]" }] },
  { name := "b", columns := [{ name := "id", type := "TEXT" }] },
  { name := "[]" }] }

theorem read_stored_unmarked :
    unmarkedSchema.WellFormed ∧
    (∃ again, read .json unmarkedSchema.toJsonText.toUTF8 = .ok again ∧
      again.tables.map (·.joinTable) = [false, false, true] ∧
      again.generate .generic = unmarkedSchema.generate .generic) ∧
    read .json (Description.jsonBytes lateRecords) = .ok lateSchema ∧
    ∃ again, read .json lateSchema.toJsonText.toUTF8 = .ok again ∧
      lateSchema.sameStructure again = true := by
  have hw : unmarkedSchema.WellFormed := by decide
  have ⟨first, hf, ht, hg⟩ := read_stored.1 unmarkedSchema hw
  have ⟨second, hs, he, _⟩ := read_stored.2 .json _ _ read_late
  refine ⟨hw, ⟨first, hf, ?_, hg .generic⟩, read_late, second, hs, he⟩
  rw [ht]
  decide

end Schema

end Relational
