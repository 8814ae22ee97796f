import Relational.Proofs.Description.CrossFormat
import Relational.Proofs.Schema.WellFormed

namespace Relational

namespace RelationshipRecord

variable {r : RelationshipRecord} {table : String} {q : Relationship}

theorem wellFormed_of_toRelationship (h : r.toRelationship table = .ok q) : q.WellFormed := by
  have ⟨ht, hf, _, ho, hq⟩ := toRelationship_eq_ok.mp h
  rw [hq]
  refine {
    relatedTable := Text.tidy_trim ht
    foreignKey := Text.tidy_trim hf
    relatedForeignKey := ?key
    throughTable := fun _ => nonBlank?_eq_some
    oneToMany := ho }
  cases hk : nonBlank? r.relatedForeignKey
  case none => exact Text.tidy_trim hf
  case some => exact nonBlank?_eq_some hk

def LacksRelatedKey (r : RelationshipRecord) : Prop :=
  ∀ key ∈ r.relatedForeignKey, Text.isBlankText key

-- The foreign key stands for a key of the related table that is not given.
def KeyDefaults (r : RelationshipRecord) (q : Relationship) : Prop :=
  r.LacksRelatedKey → q.relatedForeignKey = q.foreignKey

theorem nonBlank?_relatedForeignKey (h : r.LacksRelatedKey) :
    nonBlank? r.relatedForeignKey = none := by
  cases hk : r.relatedForeignKey
  case none => rfl
  case some key => simp [nonBlank?, Text.trim_eq_empty (h key hk)]

theorem keyDefaults_of_toRelationship (h : r.toRelationship table = .ok q) : r.KeyDefaults q := by
  intro hl
  have ⟨_, _, _, _, hq⟩ := toRelationship_eq_ok.mp h
  rw [hq, nonBlank?_relatedForeignKey hl]
  rfl

end RelationshipRecord

theorem Column.wellFormed_toColumn {c : ColumnRecord}
    (h : Text.isBlankText c.toColumn.name = false ∧ Text.isBlankText c.toColumn.type = false) :
    c.toColumn.WellFormed :=
  ⟨⟨Text.trim_trim _, h.1⟩, ⟨Text.trim_trim _, h.2⟩⟩

namespace TableRecord

variable {record : TableRecord} {t : Table}

theorem wellFormed_of_toTable (h : record.toTable = .ok t) (hn : t.WellNamed) : t.WellFormed := by
  have ⟨relationships, hr, he⟩ := bind_eq_ok.mp h
  cases he
  refine {
    name := ⟨Text.trim_trim _, hn.name⟩
    columns := fun c hc => ?columns
    columnsDiffer := hn.columnsDiffer
    relationships := fun q hq => ?relationships }
  case columns =>
    have ⟨d, _, hd⟩ := List.mem_map.mp hc
    exact hd ▸ Column.wellFormed_toColumn (hd ▸ hn.columns c hc)
  case relationships =>
    have ⟨r, _, hr⟩ := exists_mem_of_mem_mapM_ok hr q hq
    exact RelationshipRecord.wellFormed_of_toRelationship hr

def KeysDefault (record : TableRecord) (t : Table) : Prop :=
  List.Forall₂ RelationshipRecord.KeyDefaults record.relationships t.relationships

theorem keysDefault_of_toTable (h : record.toTable = .ok t) : record.KeysDefault t := by
  have ⟨relationships, hr, he⟩ := bind_eq_ok.mp h
  cases he
  exact (mapM_eq_ok.mp hr).imp fun _ _ => RelationshipRecord.keyDefaults_of_toRelationship

end TableRecord

namespace Schema

variable {records : List TableRecord} {s : Schema}

theorem wellFormed_markThroughTables (h : s.WellFormed) : s.markThroughTables.WellFormed := by
  constructor
  case tables =>
    rw [tables_markThroughTables]
    intro t ht
    obtain ⟨u, hu, rfl⟩ := List.mem_map.mp ht
    have hw := h.tables u hu
    exact { hw with }
  case tablesDiffer =>
    rw [names_markThroughTables]
    exact h.tablesDiffer

theorem wellFormed_of_ofRecords (h : ofRecords records = .ok s) : s.WellFormed := by
  obtain ⟨tables, ht, hn, hd, rfl⟩ := ofRecords_eq_ok.mp h
  refine wellFormed_markThroughTables ⟨fun t hm => ?_, hd⟩
  have ⟨record, _, hr⟩ := exists_mem_of_mem_mapM_ok ht t hm
  exact TableRecord.wellFormed_of_toTable hr (hn t hm)

theorem keysDefault_of_ofRecords (h : ofRecords records = .ok s) :
    List.Forall₂ TableRecord.KeysDefault records s.tables := by
  obtain ⟨tables, ht, _, _, rfl⟩ := ofRecords_eq_ok.mp h
  rw [tables_markThroughTables, List.forall₂_map_right_iff]
  exact (mapM_eq_ok.mp ht).imp fun _ _ => TableRecord.keysDefault_of_toTable

theorem throughMarked_of_ofRecords (h : ofRecords records = .ok s) : s.ThroughMarked := by
  obtain ⟨tables, _, _, _, rfl⟩ := ofRecords_eq_ok.mp h
  exact throughMarked_markThroughTables _

theorem read_eq_ok {format : Format} {bytes : ByteArray} : read format bytes = .ok s ↔
    ∃ records, Description.records format bytes = .ok records ∧ ofRecords records = .ok s := by
  simp only [read, bind_eq_ok, mapError_eq_ok]

-- Whatever the bytes are: if a schema is read from them, it is well formed and all its
-- through-tables are marked. Its tables and their relationships are those of the description, in
-- which the key of a related table may be left out.
theorem wellFormed_of_read {format : Format} {bytes : ByteArray}
    (h : read format bytes = .ok s) :
    s.WellFormed ∧ s.ThroughMarked ∧
      ∃ records, Description.records format bytes = .ok records ∧
        List.Forall₂ TableRecord.KeysDefault records s.tables := by
  have ⟨records, hb, hs⟩ := read_eq_ok.mp h
  exact ⟨wellFormed_of_ofRecords hs, throughMarked_of_ofRecords hs, records, hb,
    keysDefault_of_ofRecords hs⟩

def lateRecords : List TableRecord := [
  { name := " a "
    columns := [{ name := "id\n", type := "INT" }]
    relationships := [
      { relatedTable := "b", foreignKey := " id", relatedForeignKey := some "\t"
        throughTable := some "a_b " }] },
  { name := "b", columns := [{ name := "id", type := "INT" }] },
  { name := " a_b", columns := [{ name := "id", type := "INT" }] }]

def lateSchema : Schema := { tables := [
  { name := "a"
    columns := [{ name := "id", type := "INT" }]
    relationships := [
      { kind := .manyToMany, relatedTable := "b", foreignKey := "id", relatedForeignKey := "id"
        throughTable := some "a_b" }] },
  { name := "b", columns := [{ name := "id", type := "INT" }] },
  { name := "a_b", columns := [{ name := "id", type := "INT" }], joinTable := true }] }

theorem read_late : read .json (Description.jsonBytes lateRecords) = .ok lateSchema := by
  have ho : ofRecords lateRecords = .ok lateSchema := by decide
  rw [read_json_jsonBytes, ho]
  rfl

theorem wellFormed_of_read_late :
    read .json (Description.jsonBytes lateRecords) = .ok lateSchema ∧ lateSchema.WellFormed ∧
      lateSchema.ThroughMarked :=
  have h := wellFormed_of_read read_late
  ⟨read_late, h.left, h.right.left⟩

end Schema

end Relational
