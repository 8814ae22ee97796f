import Relational.Proofs.Description.Record
import Relational.Proofs.Schema.Change

namespace Relational

theorem nonBlank?_some (s : String) :
    nonBlank? (some s) = if Text.isBlankText s then none else some (Text.trim s) := by
  split_ifs with h
  case pos => simp [nonBlank?, Text.trim_eq_empty h]
  case neg => simp [nonBlank?, Option.filter_some, Text.trim_eq_empty_iff, h]

theorem nonBlank?_eq_none {o : Option String} :
    nonBlank? o = none ↔ ∀ s ∈ o, Text.isBlankText s := by
  cases o
  case none => simp [nonBlank?]
  case some s => simp [nonBlank?_some]

theorem RelationshipKind.ofText?_trim (s : String) : ofText? (Text.trim s) = ofText? s := by
  simp only [ofText?, Text.trim_trim]

theorem RelationshipKind.ofText?_of_blank {s : String} (h : Text.isBlankText s) :
    ofText? s = none := by
  rw [← ofText?_trim, Text.trim_eq_empty h]
  decide

namespace RelationshipRecord

variable {r : RelationshipRecord} {table : String} {q : Relationship}

-- A kind that is given is known, and if it is that of a single key, then no through-table is given.
structure Classifies (r : RelationshipRecord) : Prop where
  complete : r.Complete
  kind : ∀ text ∈ r.kind,
    Text.isBlankText text ∨ (RelationshipKind.ofText? text).isSome
  through : ∀ text ∈ r.kind, RelationshipKind.ofText? text = some .oneToMany →
    ∀ name ∈ r.throughTable, Text.isBlankText name

def fault? (table : String) (r : RelationshipRecord) : Option RecordError :=
  if Text.isBlankText r.relatedTable then some (.missing "related table" table)
  else if Text.isBlankText r.foreignKey then some (.missing "foreign key" table)
  else
    match nonBlank? r.kind with
    | none => none
    | some text =>
      match RelationshipKind.ofText? text with
      | none => some (.unknownKind table text)
      | some .manyToMany => none
      | some .oneToMany =>
        (nonBlank? r.throughTable).map fun _ =>
          .oneToManyThrough table (Text.trim r.relatedTable)

theorem fault?_eq_none : r.fault? table = none ↔ r.Classifies := by
  unfold fault?
  split_ifs with ht hf
  case pos => simpa using fun h : r.Classifies => by simp [h.complete.1] at ht
  case pos => simpa using fun h : r.Classifies => by simp [h.complete.2] at hf
  case neg =>
    have hc : r.Complete := ⟨by simpa using ht, by simpa using hf⟩
    have ho : r.Classifies ↔ (∀ text ∈ r.kind,
        (Text.isBlankText text ∨ (RelationshipKind.ofText? text).isSome) ∧
        (RelationshipKind.ofText? text = some .oneToMany → nonBlank? r.throughTable = none)) := by
      rw [nonBlank?_eq_none]
      exact ⟨fun h text ht => ⟨h.kind text ht, h.through text ht⟩,
        fun h => ⟨hc, fun text ht => (h text ht).1, fun text ht => (h text ht).2⟩⟩
    rw [ho]
    cases r.kind
    case none => simp [nonBlank?]
    case some text =>
      rw [nonBlank?_some]
      split_ifs with hb
      case pos => simp [hb, RelationshipKind.ofText?_of_blank hb]
      case neg =>
        cases hk : RelationshipKind.ofText? text
        case none => simp [RelationshipKind.ofText?_trim, hk, hb]
        case some kind => cases kind <;> simp [RelationshipKind.ofText?_trim, hk]

instance (r : RelationshipRecord) : Decidable r.Classifies :=
  decidable_of_iff (r.fault? "" = none) fault?_eq_none

theorem failure?_toRelationship (r : RelationshipRecord) (table : String) :
    failure? (r.toRelationship table) = r.fault? table := by
  simp only [toRelationship, fault?, required, Text.trim_eq_empty_iff]
  by_cases ht : Text.isBlankText r.relatedTable
  case pos =>
    simp only [if_pos ht]
    rfl
  case neg =>
    by_cases hf : Text.isBlankText r.foreignKey
    case pos =>
      simp only [if_neg ht, if_pos hf]
      rfl
    case neg =>
      simp only [if_neg ht, if_neg hf, ok_bind, kindOf]
      cases nonBlank? r.kind
      case none =>
        -- Without a kind of its own, a relationship that names a table is many-to-many.
        cases nonBlank? r.throughTable <;> cases r.junction <;> rfl
      case some text =>
        dsimp only
        cases RelationshipKind.ofText? text
        case none => rfl
        case some kind => cases kind <;> cases nonBlank? r.throughTable <;> rfl

-- What a relationship says that is made from a record: the kind is the one that is given, and
-- without one it is told by the through-table and the junction mark.
structure Describes (r : RelationshipRecord) (q : Relationship) : Prop where
  relatedTable : q.relatedTable = Text.trim r.relatedTable
  foreignKey : q.foreignKey = Text.trim r.foreignKey
  relatedForeignKey : q.relatedForeignKey = (nonBlank? r.relatedForeignKey).getD q.foreignKey
  throughTable : q.throughTable = nonBlank? r.throughTable
  givenKind : ∀ text, nonBlank? r.kind = some text → RelationshipKind.ofText? text = some q.kind
  otherKind : nonBlank? r.kind = none →
    (q.kind = .manyToMany ↔ q.throughTable.isSome ∨ r.junction = true)

theorem kindOf_eq_ok {kind : RelationshipKind} (h : r.kindOf table = .ok kind) :
    (∀ text, nonBlank? r.kind = some text → RelationshipKind.ofText? text = some kind) ∧
      (nonBlank? r.kind = none →
        (kind = .manyToMany ↔ (nonBlank? r.throughTable).isSome ∨ r.junction = true)) := by
  unfold kindOf at h
  split at h
  case h_1 text he =>
    split at h
    case h_1 hk =>
      cases h
      rw [he]
      exact ⟨by rintro _ ⟨⟩; exact hk, nofun⟩
    case h_2 => cases h
  case h_2 he =>
    cases h
    rw [he]
    exact ⟨nofun, fun _ => by cases nonBlank? r.throughTable <;> simp⟩

theorem describes_of_toRelationship (h : r.toRelationship table = .ok q) : r.Describes q := by
  have ⟨_, _, hk, _, hq⟩ := toRelationship_eq_ok.mp h
  have ⟨hgiven, hother⟩ := kindOf_eq_ok hk
  rw [hq]
  exact ⟨rfl, rfl, rfl, rfl, hgiven, hother⟩

end RelationshipRecord

namespace TableRecord

variable {record : TableRecord} {t : Table}

def trimmed (record : TableRecord) : Table where
  name := Text.trim record.name
  columns := record.columns.map (·.toColumn)
  joinTable := record.joinTable

def fault? (record : TableRecord) : Option RecordError :=
  record.relationships.findSome? (·.fault? (Text.trim record.name))

theorem fault?_eq_none : record.fault? = none ↔ ∀ r ∈ record.relationships, r.Classifies := by
  simp only [fault?, List.findSome?_eq_none_iff, RelationshipRecord.fault?_eq_none]

theorem failure?_toTable (record : TableRecord) : failure? record.toTable = record.fault? := by
  have hf : record.fault? =
      failure? (record.relationships.mapM (·.toRelationship (Text.trim record.name))) := by
    simp only [fault?, failure?_mapM, RelationshipRecord.failure?_toRelationship]
  rw [hf]
  exact failure?_bind_ok fun _ => ⟨_, rfl⟩

structure Describes (s : Schema) (record : TableRecord) (t : Table) : Prop where
  name : t.name = Text.trim record.name
  columns : t.columns = record.columns.map fun c => {
    name := Text.trim c.name
    type := Text.trim c.type
    primaryKey := c.primaryKey
    autoIncrement := c.autoIncrement }
  relationships : List.Forall₂ RelationshipRecord.Describes record.relationships t.relationships
  joinTable : t.joinTable = true ↔ record.joinTable = true ∨ s.GoesThrough t.name

theorem toTable_eq_ok (h : record.toTable = .ok t) :
    t = { record.trimmed with relationships := t.relationships } ∧
      List.Forall₂ RelationshipRecord.Describes record.relationships t.relationships := by
  have ⟨relationships, hr, he⟩ := bind_eq_ok.mp h
  cases he
  exact ⟨rfl, (mapM_eq_ok.mp hr).imp fun _ _ => RelationshipRecord.describes_of_toRelationship⟩

end TableRecord

theorem checkNames_congr {tables others : List Table}
    (h : List.Forall₂ (fun t u => t.name = u.name ∧ t.columns = u.columns) tables others) :
    checkNames tables = checkNames others := by
  have hr (before : List String) :
      namingConflictsAfter before tables = namingConflictsAfter before others := by
    induction h generalizing before
    case nil => rfl
    case cons h _ hi => simp only [namingConflictsAfter, h.1, hi]
  have ht : forM tables Table.checkNames = forM others Table.checkNames := by
    clear hr
    induction h
    case nil => rfl
    case cons h _ hi =>
      rw [List.forM_cons, List.forM_cons, hi, Table.checkNames, Table.checkNames, h.1, h.2]
  simp only [checkNames, List.forM_eq_forM, ht, namingConflicts, hr]

namespace Change

variable {s : Schema}

theorem run_addTable {t : Table} (h : t.name ∉ s.tables.map (·.name)) :
    (addTable t).run s = .ok () { s with tables := s.tables ++ [t] } := by
  have ht : ¬s.hasTable t.name := fun hh => h (Schema.hasTable_iff.mp hh)
  rw [addTable, EStateM.run_bind, EStateM.run_get]
  dsimp only
  rw [if_neg ht, EStateM.run_modify]

theorem run_addTables {tables : List Table} (h : ((s.tables ++ tables).map (·.name)).Nodup) :
    (tables.forM addTable).run s = .ok () { s with tables := s.tables ++ tables } := by
  induction tables generalizing s
  case nil => simp
  case cons t tables hi =>
    have ht : t.name ∉ s.tables.map (·.name) := by
      rw [List.map_append, List.map_cons] at h
      exact fun hm => (List.nodup_append.mp h).2.2 _ hm _ List.mem_cons_self rfl
    rw [List.forM_eq_forM, List.forM_cons, EStateM.run_bind, run_addTable ht]
    dsimp only
    rw [← List.forM_eq_forM, hi (by simpa using h)]
    simp

end Change

namespace Schema

variable {records : List TableRecord} {s : Schema} {tables : List Table}

theorem checkNames_of_toTable (h : records.mapM (·.toTable) = .ok tables) :
    checkNames tables = checkNames (records.map (·.trimmed)) := by
  refine checkNames_congr (List.forall₂_map_right_iff.mpr ?_)
  refine (mapM_eq_ok.mp h).flip.imp fun t record hr => ?_
  have ⟨he, _⟩ := TableRecord.toTable_eq_ok hr
  rw [he]
  exact ⟨rfl, rfl⟩

theorem failure?_ofRecords (records : List TableRecord) :
    failure? (ofRecords records) =
      (records.findSome? (·.fault?)).or
        ((failure? (checkNames (records.map (·.trimmed)))).map .naming) := by
  have hf : records.findSome? (·.fault?) = failure? (records.mapM (·.toTable)) := by
    simp only [failure?_mapM, TableRecord.failure?_toTable]
  rw [hf]
  refine failure?_bind fun tables ht => ?_
  rw [← checkNames_of_toTable ht]
  cases checkNames tables <;> rfl

theorem describes_of_ofRecords (h : ofRecords records = .ok s) :
    List.Forall₂ (TableRecord.Describes s) records s.tables := by
  obtain ⟨tables, ht, _, _, rfl⟩ := ofRecords_eq_ok.mp h
  rw [tables_markThroughTables, List.forall₂_map_right_iff]
  refine (mapM_eq_ok.mp ht).imp fun record t hr => ?_
  have ⟨he, hq⟩ := TableRecord.toTable_eq_ok hr
  refine { name := ?_, columns := ?_, relationships := hq, joinTable := ?_ }
  case refine_1 => rw [he]; rfl
  case refine_2 => rw [he]; rfl
  case refine_3 =>
    rw [goesThrough_markThroughTables]
    have hj : t.joinTable = record.joinTable := by rw [he]; rfl
    simp [marked, hj]

-- What becomes of records: when a schema is made, what it says, which error is reported otherwise,
-- and that tables whose names were checked can be added one by one.
theorem ofRecords_outcome (records : List TableRecord) :
    ((∃ s, ofRecords records = .ok s) ↔
      (∀ record ∈ records, ∀ r ∈ record.relationships, r.Classifies) ∧
      (∀ record ∈ records, record.trimmed.WellNamed) ∧
      (records.map (Text.trim ·.name)).Nodup) ∧
    (∀ s, ofRecords records = .ok s →
      s.source = none ∧ List.Forall₂ (TableRecord.Describes s) records s.tables) ∧
    failure? (ofRecords records) =
      (records.findSome? (·.fault?)).or
        ((((records.map (·.trimmed)).findSome? Table.namingFault?).or
          (firstFault? Table.repeatFault? [] (records.map (·.trimmed)))).map .naming) ∧
    ∀ tables, records.mapM (·.toTable) = .ok tables → checkNames tables = .ok () →
      (tables.forM Change.addTable).run {} = .ok () { tables } := by
  refine ⟨?accepted, ?described, ?refused, ?added⟩
  case accepted =>
    have hc : (∃ u, checkNames (records.map (·.trimmed)) = .ok u) ↔
        (∀ record ∈ records, record.trimmed.WellNamed) ∧
          (records.map (Text.trim ·.name)).Nodup := by
      refine Unique.exists_iff.trans (checkNames_eq_ok.trans ?_)
      rw [List.forall_mem_map, List.map_map]
      rfl
    rw [← failure?_eq_none, failure?_ofRecords, Option.or_eq_none_iff, Option.map_eq_none_iff,
      failure?_eq_none, hc, List.findSome?_eq_none_iff]
    simp only [TableRecord.fault?_eq_none]
  case described =>
    intro s h
    refine ⟨?_, describes_of_ofRecords h⟩
    obtain ⟨tables, _, _, _, rfl⟩ := ofRecords_eq_ok.mp h
    rfl
  case refused => rw [failure?_ofRecords, failure?_checkNames]
  case added =>
    intro tables _ hc
    exact Change.run_addTables (s := {}) (checkNames_eq_ok.mp hc).2

def clashingRecords : List TableRecord := [
  { name := " a", columns := [{ name := "id", type := "INT" }] },
  { name := "a\n"
    columns := [{ name := "id", type := "INT" }, { name := "id ", type := "TEXT" }] },
  { name := "b"
    relationships := [{ kind := some " seldom", relatedTable := "a", foreignKey := "id" }] }]

theorem ofRecords_outcome_clashing :
    ofRecords clashingRecords = .error (.unknownKind "b" "seldom") ∧
    ofRecords (clashingRecords.take 2) = .error (.naming (.duplicateColumn "a" "id")) ∧
    ∃ s, ofRecords (clashingRecords.take 1) = .ok s :=
  ⟨failure?_eq_some.mp ((ofRecords_outcome clashingRecords).2.2.1.trans (by decide)),
    failure?_eq_some.mp ((ofRecords_outcome (clashingRecords.take 2)).2.2.1.trans (by decide)),
    (ofRecords_outcome (clashingRecords.take 1)).1.mpr (by decide)⟩

end Schema

end Relational
