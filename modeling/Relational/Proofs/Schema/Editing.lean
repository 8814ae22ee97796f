import Relational.Proofs.Schema.Change

namespace Relational

inductive Edit where
  | addTable (t : Table)
  | removeTable (table : String)
  | renameTable (old new : String)
  | addColumn (table : String) (c : Column)
  | removeColumn (table column : String)
  | replaceColumn (table column : String) (c : Column)
  | addRelationship (table : String) (r : Relationship)
  | removeRelationships (table related : String)
  | replaceRelationship (table related : String) (r : Relationship)
  deriving DecidableEq, Repr

namespace Edit

def change : Edit → Change Unit
  | addTable t => Change.addTable t
  | removeTable table => discard <| Change.removeTable table
  | renameTable old new => Change.renameTable old new
  | addColumn table c => Change.addColumn table c
  | removeColumn table column => discard <| Change.removeColumn table column
  | replaceColumn table column c => discard <| Change.replaceColumn table column c
  | addRelationship table r => Change.addRelationship table r
  | removeRelationships table related => discard <| Change.removeRelationships table related
  | replaceRelationship table related r =>
    discard <| Change.replaceRelationship table related r

def table : Edit → String
  | addTable t => t.name
  | renameTable old _ => old
  | removeTable table
  | addColumn table _
  | removeColumn table _
  | replaceColumn table _ _
  | addRelationship table _
  | removeRelationships table _
  | replaceRelationship table _ _ => table

def newTables : Edit → List Table
  | addTable t => [t]
  | _ => []

def keeps : Edit → String → Bool
  | removeTable table => (· != table)
  | _ => fun _ => true

def name : Edit → String → String
  | renameTable old new => fun name => if name = old then new else name
  | _ => id

def mention (e : Edit) (r : Relationship) : Relationship :=
  { r with relatedTable := e.name r.relatedTable, throughTable := r.throughTable.map e.name }

def columns : Edit → List Column → List Column
  | addColumn _ c => (· ++ [c])
  | removeColumn _ column => List.eraseP (·.name == column)
  | replaceColumn _ column c => fun cs => cs.set (cs.findIdx (·.name == column)) c
  | _ => id

def relationships : Edit → List Relationship → List Relationship
  | addRelationship _ r => (· ++ [r])
  | removeRelationships _ related => List.filter (·.relatedTable != related)
  | replaceRelationship _ related r => fun rs => rs.set (rs.findIdx (·.relatedTable == related)) r
  | _ => id

def marks : Edit → Bool
  | addRelationship .. | replaceRelationship .. => true
  | _ => false

-- What a table is afterwards, if it is still there.
def changed (e : Edit) (after : Schema) (t : Table) : Table where
  name := e.name t.name
  columns := if t.name = e.table then e.columns t.columns else t.columns
  relationships :=
    (if t.name = e.table then e.relationships t.relationships else t.relationships).map e.mention
  joinTable := t.joinTable || (e.marks && decide (after.GoesThrough t.name))

def Allowed (s : Schema) : Edit → Prop
  | addTable t => t.name ∉ s.tables.map (·.name)
  | renameTable old new =>
    old = new ∨ new ∉ s.tables.map (·.name) ∧ old ∈ s.tables.map (·.name)
  | removeTable table | addRelationship table _ => table ∈ s.tables.map (·.name)
  | addColumn table c => ∃ t ∈ s.tables, t.name = table ∧ c.name ∉ t.columns.map (·.name)
  | removeColumn table column => ∃ t ∈ s.tables, t.name = table ∧ column ∈ t.columns.map (·.name)
  | replaceColumn table column c =>
    ∃ t ∈ s.tables, t.name = table ∧ column ∈ t.columns.map (·.name) ∧
      (c.name = column ∨ c.name ∉ t.columns.map (·.name))
  | removeRelationships table related | replaceRelationship table related _ =>
    ∃ t ∈ s.tables, t.name = table ∧ ∃ r ∈ t.relationships, r.relatedTable = related

-- What an edit that is not refused makes of a schema: the tables that are still there keep their
-- order, and the new ones come last.
structure Effect (e : Edit) (s s' : Schema) : Prop where
  tables : s'.tables = (s.tables.filter (e.keeps ·.name)).map (e.changed s') ++ e.newTables
  source : s'.source = s.source

def Meets {α : Type} (e : Edit) (s : Schema) : EStateM.Result EditError Schema α → Prop
  | .ok _ s' => e.Allowed s ∧ e.Effect s s'
  | .error _ s' => ¬e.Allowed s ∧ s' = s

variable {α β : Type} {e : Edit} {s s' : Schema} {t : Table}

theorem mention_eq_id (h : e.name = id) : e.mention = id := by
  funext r
  simp [mention, h]

theorem changed_of_id (hc : e.columns = id) (hr : e.relationships = id) (hm : e.marks = false)
    (s' : Schema) (t : Table) :
    e.changed s' t =
      { t with name := e.name t.name, relationships := t.relationships.map e.mention } := by
  simp [changed, hc, hr, hm]

theorem changed_eq_id (hn : e.name = id) (hc : e.columns = id) (hr : e.relationships = id)
    (hm : e.marks = false) (s' : Schema) : e.changed s' = id := by
  funext t
  simp [changed_of_id hc hr hm, mention_eq_id hn, hn]

theorem changed_of_ne (h : t.name ≠ e.table) :
    e.changed s' t =
      { t with
        relationships := t.relationships.map e.mention
        joinTable := t.joinTable || (e.marks && decide (s'.GoesThrough t.name)) } := by
  have hn : e.name t.name = t.name := by
    cases e
    case renameTable => exact if_neg h
    all_goals rfl
  simp only [changed, hn, if_neg h]

theorem meets_map {g : α → β} {c : Change α} :
    e.Meets s ((g <$> c).run s) ↔ e.Meets s (c.run s) := by
  rw [← bind_pure_comp, EStateM.run_bind]
  cases c.run s
  case ok => rfl
  case error => rfl

theorem meets_discard {c : Change α} : e.Meets s ((discard c).run s) ↔ e.Meets s (c.run s) :=
  meets_map

theorem meets_bind_pure {a : β} {c : Change α} :
    e.Meets s ((c >>= fun _ => pure a).run s) ↔ e.Meets s (c.run s) := by
  rw [bind_pure_comp, meets_map]

theorem Meets.of_existingTable {k : Table → Change α}
    (ha : e.Allowed s → e.table ∈ s.tables.map (·.name))
    (hk : ∀ t ∈ s.tables, t.name = e.table → e.Meets s ((k t).run s)) :
    e.Meets s ((Change.existingTable e.table >>= k).run s) := by
  rw [Change.run_existingTable_bind]
  split
  case h_1 t ht => exact (Schema.mem_of_table? ht).elim (hk t)
  case h_2 ht => exact ⟨fun he => Schema.table?_eq_none.mp ht (ha he), rfl⟩

structure InPlace (e : Edit) : Prop where
  keeps     : e.keeps = fun _ => true
  newTables : e.newTables = []
  name      : e.name = id

def DoneBy (e : Edit) (s : Schema) (f : Table → Table) : Prop :=
  ∀ t ∈ s.tables, t.name = e.table →
    f t =
      { t with columns := e.columns t.columns, relationships := e.relationships t.relationships }

namespace InPlace

variable {f : Table → Table}

theorem changed_eq (h : e.InPlace) (s' : Schema) (t : Table) :
    e.changed s' t =
      { t with
        columns := if t.name = e.table then e.columns t.columns else t.columns
        relationships :=
          if t.name = e.table then e.relationships t.relationships else t.relationships
        joinTable := t.joinTable || (e.marks && decide (s'.GoesThrough t.name)) } := by
  simp [changed, mention_eq_id h.name, h.name]

theorem effect (h : e.InPlace) (ht : s'.tables = s.tables.map (e.changed s'))
    (hs : s'.source = s.source) : e.Effect s s' where
  tables := by simpa [h.keeps, h.newTables] using ht
  source := hs

theorem modifyTables_eq (h : e.InPlace) (hf : e.DoneBy s f) :
    (s.modifyTables fun t => if t.name = e.table then f t else t) =
      s.modifyTables fun t => { e.changed s t with joinTable := t.joinTable } := by
  unfold Schema.modifyTables
  congr 1
  refine List.map_congr_left fun t ht => ?_
  rw [h.changed_eq]
  split_ifs with hn
  case pos => rw [hf t ht hn]
  case neg => rfl

theorem meets_changeTable (h : e.InPlace) (hm : e.marks = false) (hn : s.TablesDiffer)
    (ha : e.Allowed s) (hf : e.DoneBy s f) :
    e.Meets s ((Change.changeTable e.table f).run s) := by
  rw [Change.run_changeTable hn, h.modifyTables_eq hf]
  refine ⟨ha, h.effect (List.map_congr_left fun t _ => ?_) rfl⟩
  simp [h.changed_eq, hm]

theorem meets_changeTable_mark (h : e.InPlace) (hm : e.marks = true) (hn : s.TablesDiffer)
    (ha : e.Allowed s) (hf : e.DoneBy s f) :
    e.Meets s ((do
      Change.changeTable e.table f
      modify Schema.markThroughTables : Change Unit).run s) := by
  rw [EStateM.run_bind, Change.run_changeTable hn, h.modifyTables_eq hf]
  refine ⟨ha, h.effect ?_ rfl⟩
  rw [Schema.tables_markThroughTables, Schema.modifyTables, List.map_map]
  refine List.map_congr_left fun t _ => ?_
  simp [h.changed_eq, hm, Schema.marked, Schema.goesThrough_markThroughTables]

end InPlace

theorem mem_names_of_exists {n : String} {p : Table → Prop}
    (h : ∃ t ∈ s.tables, t.name = n ∧ p t) : n ∈ s.tables.map (·.name) := by
  obtain ⟨t, ht, rfl, _⟩ := h
  exact List.mem_map_of_mem ht

theorem meets_addTable (t : Table) (s : Schema) :
    (addTable t).Meets s ((Change.addTable t).run s) := by
  rw [Change.addTable, EStateM.run_bind, EStateM.run_get]
  dsimp only
  split_ifs with ht
  case pos => exact ⟨not_not_intro <| Schema.hasTable_iff.mp ht, rfl⟩
  case neg =>
    refine ⟨fun hm => ht <| Schema.hasTable_iff.mpr hm, ?_, rfl⟩
    rw [changed_eq_id rfl rfl rfl rfl]
    simp [keeps, newTables]

theorem meets_removeTable (hn : s.TablesDiffer) (table : String) :
    (removeTable table).Meets s ((Change.removeTable table).run s) := by
  refine Meets.of_existingTable id fun t ht hm => ?_
  refine ⟨List.mem_map.mpr ⟨t, ht, hm⟩, ?_, rfl⟩
  rw [changed_eq_id rfl rfl rfl rfl]
  simpa [keeps, newTables] using eraseP_eq_filter hn table

theorem meets_renameTable (hn : s.TablesDiffer) (old new : String) :
    (renameTable old new).Meets s ((Change.renameTable old new).run s) := by
  unfold Change.renameTable
  split_ifs with ho
  case pos =>
    have hi : (renameTable old new).name = id := by
      funext n
      simpa [name, ho] using Eq.symm
    refine ⟨.inl ho, ?_, rfl⟩
    rw [changed_eq_id hi rfl rfl rfl]
    simp [keeps, newTables]
  case neg =>
    rw [EStateM.run_bind, EStateM.run_get]
    dsimp only
    split_ifs with hw
    case pos => exact ⟨fun ha => (ha.resolve_left ho).1 <| Schema.hasTable_iff.mp hw, rfl⟩
    case neg =>
      refine Meets.of_existingTable (fun ha => (ha.resolve_left ho).2) fun t ht hm => ?_
      rw [EStateM.run_bind, Change.run_changeTable hn]
      have ha : (renameTable old new).Allowed s :=
        .inr ⟨fun hm => hw <| Schema.hasTable_iff.mpr hm, List.mem_map.mpr ⟨t, ht, hm⟩⟩
      refine ⟨ha, ?_, rfl⟩
      simp only [Schema.modifyTables, List.map_map, keeps, newTables, List.filter_true,
        List.append_nil]
      refine List.map_congr_left fun u _ => ?_
      have hu : (renameTable old new).name u.name = if u.name = old then new else u.name := rfl
      rw [changed_of_id rfl rfl rfl, Function.comp_apply, hu]
      split_ifs
      case pos => rfl
      case neg => rfl

theorem meets_addColumn (hn : s.TablesDiffer) (table : String) (c : Column) :
    (addColumn table c).Meets s ((Change.addColumn table c).run s) := by
  refine Meets.of_existingTable mem_names_of_exists fun t ht hm => ?_
  have ha : (addColumn table c).Allowed s ↔ _ := hn.exists_named_iff ht hm
  split_ifs with hc
  case pos => exact ⟨fun h => ha.mp h <| Table.hasColumn_iff.mp hc, rfl⟩
  case neg =>
    exact InPlace.meets_changeTable ⟨rfl, rfl, rfl⟩ rfl hn
      (ha.mpr fun h => hc <| Table.hasColumn_iff.mpr h) fun _ _ _ => rfl

theorem meets_removeColumn (hn : s.TablesDiffer) (table column : String) :
    (removeColumn table column).Meets s ((Change.removeColumn table column).run s) := by
  refine Meets.of_existingTable mem_names_of_exists fun t ht hm => ?_
  have ha : (removeColumn table column).Allowed s ↔ _ := hn.exists_named_iff ht hm
  rw [← Table.hasColumn_iff, Table.hasColumn] at ha
  split
  case h_1 hc => exact ⟨by simp [ha, hc], rfl⟩
  case h_2 hc =>
    refine meets_bind_pure.mpr <| InPlace.meets_changeTable ⟨rfl, rfl, rfl⟩ rfl hn
      (ha.mpr (by simp [hc])) fun _ _ _ => rfl

theorem meets_replaceColumn (hn : s.TablesDiffer) (table column : String) (c : Column) :
    (replaceColumn table column c).Meets s ((Change.replaceColumn table column c).run s) := by
  refine Meets.of_existingTable mem_names_of_exists fun t ht hm => ?_
  have ha : (replaceColumn table column c).Allowed s ↔ _ := hn.exists_named_iff ht hm
  rw [← Table.hasColumn_iff, ← Table.hasColumn_iff] at ha
  split_ifs with hd
  case pos => exact ⟨fun h => (ha.mp h).2.elim hd.1 (· hd.2), rfl⟩
  case neg =>
    split
    case h_1 hc => exact ⟨by simp [ha, Table.hasColumn, hc], rfl⟩
    case h_2 hc =>
      refine meets_bind_pure.mpr <| InPlace.meets_changeTable ⟨rfl, rfl, rfl⟩ rfl hn
        (ha.mpr ⟨by simp [Table.hasColumn, hc], by tauto⟩) fun u _ _ => ?_
      rw [changeFirst_eq_set]
      rfl

theorem meets_addRelationship (hn : s.TablesDiffer) (table : String) (r : Relationship) :
    (addRelationship table r).Meets s ((Change.addRelationship table r).run s) :=
  Meets.of_existingTable id fun t ht hm =>
    InPlace.meets_changeTable_mark ⟨rfl, rfl, rfl⟩ rfl hn (List.mem_map.mpr ⟨t, ht, hm⟩)
      fun _ _ _ => rfl

theorem meets_removeRelationships (hn : s.TablesDiffer) (table related : String) :
    (removeRelationships table related).Meets s
      ((Change.removeRelationships table related).run s) := by
  refine Meets.of_existingTable mem_names_of_exists fun t ht hm => ?_
  have ha : (removeRelationships table related).Allowed s ↔ _ := hn.exists_named_iff ht hm
  have hl : t.relationships.length -
      (t.relationships.filter (·.relatedTable != related)).length = 0 ↔
        ∀ r ∈ t.relationships, r.relatedTable ≠ related := by
    have := List.length_filter_le (·.relatedTable != related) t.relationships
    rw [Nat.sub_eq_zero_iff_le, this.ge_iff_eq, List.length_filter_eq_length_iff]
    simp
  have hu : ∀ u ∈ s.tables, u.name = table → u = t := fun u hu hu' =>
    hn.eq_of_name_eq hu ht (hu'.trans hm.symm)
  dsimp only
  split_ifs with hr
  case pos =>
    -- The change finds out that there is nothing to remove when it has put back all that it kept.
    have hk : t.relationships.filter (·.relatedTable != related) = t.relationships :=
      List.filter_eq_self.mpr fun r h => by simpa using hl.mp hr r h
    rw [EStateM.run_bind, Change.run_changeTable hn, hk]
    refine ⟨by simpa [ha] using hl.mp hr, Schema.modifyTables_eq_self fun u hm' => ?_⟩
    split_ifs with he
    case pos => rw [hu u hm' he]
    case neg => rfl
  case neg =>
    have ha : (removeRelationships table related).Allowed s := by simpa [ha] using mt hl.mpr hr
    refine meets_bind_pure.mpr <| InPlace.meets_changeTable ⟨rfl, rfl, rfl⟩ rfl hn ha ?_
    intro u hm' he
    rw [hu u hm' he]
    rfl

theorem meets_replaceRelationship (hn : s.TablesDiffer) (table related : String)
    (r : Relationship) :
    (replaceRelationship table related r).Meets s
      ((Change.replaceRelationship table related r).run s) := by
  refine Meets.of_existingTable mem_names_of_exists fun t ht hm => ?_
  have ha : (replaceRelationship table related r).Allowed s ↔ _ := hn.exists_named_iff ht hm
  split
  case h_1 hr => exact ⟨by simpa [ha] using hr, rfl⟩
  case h_2 previous hr =>
    have hp : ∃ r ∈ t.relationships, r.relatedTable = related :=
      ⟨previous, List.mem_of_find?_eq_some hr, by simpa using List.find?_some hr⟩
    refine meets_bind_pure.mpr <| InPlace.meets_changeTable_mark ⟨rfl, rfl, rfl⟩ rfl hn
      (ha.mpr hp) fun u hu _ => ?_
    rw [changeFirst_eq_set]
    rfl

theorem meets_change (hn : s.TablesDiffer) (e : Edit) : e.Meets s (e.change.run s) := by
  cases e
  case addTable t => exact meets_addTable t s
  case removeTable table => exact meets_discard.mpr <| meets_removeTable hn table
  case renameTable old new => exact meets_renameTable hn old new
  case addColumn table c => exact meets_addColumn hn table c
  case removeColumn table column => exact meets_discard.mpr <| meets_removeColumn hn table column
  case replaceColumn table column c =>
    exact meets_discard.mpr <| meets_replaceColumn hn table column c
  case addRelationship table r => exact meets_addRelationship hn table r
  case removeRelationships table related =>
    exact meets_discard.mpr <| meets_removeRelationships hn table related
  case replaceRelationship table related r =>
    exact meets_discard.mpr <| meets_replaceRelationship hn table related r

end Edit

end Relational
