import Relational.Description.Record
import Relational.Proofs.Schema.Naming
import Relational.Proofs.Text.Trim

namespace Relational

def ColumnRecord.Complete (c : ColumnRecord) : Prop :=
  Text.isBlankText c.name = false ∧ Text.isBlankText c.type = false

instance (c : ColumnRecord) : Decidable c.Complete :=
  inferInstanceAs (Decidable (_ ∧ _))

def RelationshipRecord.Complete (r : RelationshipRecord) : Prop :=
  Text.isBlankText r.relatedTable = false ∧ Text.isBlankText r.foreignKey = false

instance (r : RelationshipRecord) : Decidable r.Complete :=
  inferInstanceAs (Decidable (_ ∧ _))

def TableRecord.Complete (t : TableRecord) : Prop :=
  Text.isBlankText t.name = false ∧ (∀ c ∈ t.columns, c.Complete) ∧
    ∀ r ∈ t.relationships, r.Complete

instance (t : TableRecord) : Decidable t.Complete :=
  inferInstanceAs (Decidable (_ ∧ _))

theorem nonBlank?_eq_some {o : Option String} {s : String} (h : nonBlank? o = some s) :
    Text.Tidy s := by
  have ⟨hm, hn⟩ := Option.filter_eq_some_iff.mp h
  have ⟨t, _, ht⟩ := Option.map_eq_some_iff.mp hm
  subst ht
  exact Text.tidy_trim (by simpa using hn)

namespace RelationshipRecord

variable {r : RelationshipRecord} {table : String} {q : Relationship}

theorem required_eq_ok {field value result : String} :
    required table field value = .ok result ↔ Text.trim value ≠ "" ∧ Text.trim value = result := by
  by_cases h : Text.trim value = "" <;> simp [required, h]

theorem toRelationship_eq_ok : r.toRelationship table = .ok q ↔
    Text.trim r.relatedTable ≠ "" ∧ Text.trim r.foreignKey ≠ "" ∧
      r.kindOf table = .ok q.kind ∧
      (q.kind = .oneToMany → nonBlank? r.throughTable = none) ∧
      q = {
        kind := q.kind
        relatedTable := Text.trim r.relatedTable
        foreignKey := Text.trim r.foreignKey
        relatedForeignKey := (nonBlank? r.relatedForeignKey).getD (Text.trim r.foreignKey)
        throughTable := nonBlank? r.throughTable } := by
  simp only [toRelationship, bind_eq_ok, required_eq_ok]
  constructor
  · rintro ⟨_, ⟨ht, rfl⟩, _, ⟨hf, rfl⟩, kind, hk, h⟩
    split_ifs at h with ho
    cases h
    exact ⟨ht, hf, hk, by simpa using ho, rfl⟩
  · rintro ⟨ht, hf, hk, ho, hq⟩
    refine ⟨_, ⟨ht, rfl⟩, _, ⟨hf, rfl⟩, q.kind, hk, ?_⟩
    rw [if_neg (by simpa using ho), ← hq]

theorem complete_of_toRelationship (h : r.toRelationship table = .ok q) : r.Complete := by
  have ⟨ht, hf, _⟩ := toRelationship_eq_ok.mp h
  exact ⟨Text.not_blank_of_trim (Text.notBlank_of_trim_ne ht),
    Text.not_blank_of_trim (Text.notBlank_of_trim_ne hf)⟩

end RelationshipRecord

theorem TableRecord.complete_of_toTable {t : TableRecord} {table : Table}
    (h : t.toTable = .ok table) (hn : table.WellNamed) : t.Complete := by
  have ⟨relationships, hr, he⟩ := bind_eq_ok.mp h
  cases he
  refine ⟨Text.not_blank_of_trim hn.name, fun c hm => ?columns, fun r hm => ?relationships⟩
  case columns =>
    have ⟨hn, ht⟩ := hn.columns c.toColumn (List.mem_map_of_mem hm)
    exact ⟨Text.not_blank_of_trim hn, Text.not_blank_of_trim ht⟩
  case relationships =>
    have ⟨_, _, hr⟩ := exists_mem_of_mapM_ok hr r hm
    exact RelationshipRecord.complete_of_toRelationship hr

namespace Schema

variable {records : List TableRecord} {s : Schema}

theorem ofRecords_eq_ok : ofRecords records = .ok s ↔
    ∃ tables, records.mapM (·.toTable) = .ok tables ∧ (∀ t ∈ tables, t.WellNamed) ∧
      (tables.map (·.name)).Nodup ∧ markThroughTables { tables } = s := by
  simp only [ofRecords, bind_eq_ok]
  refine exists_congr fun tables => and_congr_right fun _ => ?_
  rw [← and_assoc, ← checkNames_eq_ok]
  cases checkNames tables <;> simp

theorem complete_of_ofRecords (h : ofRecords records = .ok s) : ∀ t ∈ records, t.Complete := by
  have ⟨tables, ht, hn, _⟩ := ofRecords_eq_ok.mp h
  intro t hm
  have ⟨table, hm, h⟩ := exists_mem_of_mapM_ok ht t hm
  exact TableRecord.complete_of_toTable h (hn table hm)

end Schema

end Relational
