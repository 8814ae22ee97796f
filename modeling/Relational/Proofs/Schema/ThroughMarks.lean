import Relational.Proofs.Description.Parsed
import Relational.Proofs.Schema.EditRun
import Relational.Proofs.Schema.Storage

namespace Relational

def Table.GoesThrough (t : Table) (name : String) : Prop :=
  ∃ r ∈ t.relationships, r.throughTable = some name

namespace Edit

variable {e : Edit} {s s' : Schema} {t : Table} {n : String}

-- The edit needs no marks that it does not set.
def Heedful (s : Schema) : Edit → Prop
  | addTable t =>
    (s.GoesThrough t.name ∨ t.GoesThrough t.name → t.joinTable = true) ∧
      ∀ u ∈ s.tables, t.GoesThrough u.name → u.joinTable = true
  | renameTable old new =>
    old = new ∨ (s.GoesThrough new → ∀ t ∈ s.tables, t.name = old → t.joinTable = true)
  | _ => True

theorem relationships_subset (h : e.marks = false) (rs : List Relationship) :
    e.relationships rs ⊆ rs := by
  cases e
  case removeRelationships => exact List.filter_subset_self _
  case addRelationship => exact nomatch h
  case replaceRelationship => exact nomatch h
  all_goals exact List.Subset.refl rs

theorem goesThrough_of_changed (hm : e.marks = false) (h : (e.changed s' t).GoesThrough n) :
    ∃ m, t.GoesThrough m ∧ e.name m = n := by
  obtain ⟨q, hq, hn⟩ := h
  obtain ⟨r, hr, rfl⟩ := List.mem_map.mp hq
  obtain ⟨m, hm', rfl⟩ := Option.map_eq_some_iff.mp hn
  refine ⟨m, ⟨r, ?_, hm'⟩, rfl⟩
  split_ifs at hr
  case pos => exact relationships_subset hm _ hr
  case neg => exact hr

namespace Effect

theorem throughMarked_of_marks (h : e.Effect s s') (hi : e.InPlace) (hm : e.marks = true) :
    s'.ThroughMarked := by
  intro t' ht' hg
  rw [h.tables_of_inOrder hi.keeps hi.newTables] at ht'
  obtain ⟨t, _, rfl⟩ := List.mem_map.mp ht'
  rw [hi.changed_eq] at hg ⊢
  simpa [hm] using .inr hg

theorem throughMarked_of_name (h : e.Effect s s') (hm : e.marks = false) (hn : e.name = id)
    (ht : e.newTables = []) (hs : s.ThroughMarked) : s'.ThroughMarked := by
  have hu {u : Table} (hu : u ∈ s'.tables) : ∃ t ∈ s.tables, e.changed s' t = u := by
    rw [h.tables, ht, List.append_nil] at hu
    have ⟨t, ht, hu⟩ := List.mem_map.mp hu
    exact ⟨t, List.mem_of_mem_filter ht, hu⟩
  intro t' ht' ⟨u', hu', hg⟩
  obtain ⟨t, ht, rfl⟩ := hu ht'
  obtain ⟨u, hu, rfl⟩ := hu hu'
  have ⟨m, hg, he⟩ := goesThrough_of_changed hm hg
  have he : m = t.name := by simpa [changed, hn] using he
  have hj : (e.changed s' t).joinTable = t.joinTable := by simp [changed, hm]
  rw [hj]
  exact hs t ht ⟨u, hu, he ▸ hg⟩

theorem throughMarked_addTable_iff (h : (addTable t).Effect s s') (hs : s.ThroughMarked) :
    s'.ThroughMarked ↔ (addTable t).Heedful s := by
  have ht : s'.tables = s.tables ++ [t] := by
    have ht := h.tables
    rw [changed_eq_id rfl rfl rfl rfl] at ht
    simpa [keeps, newTables] using ht
  have hg (n : String) : s'.GoesThrough n ↔ s.GoesThrough n ∨ t.GoesThrough n := by
    simp [Schema.GoesThrough, Table.GoesThrough, ht, or_and_right, exists_or]
  simp only [Schema.ThroughMarked, ht, List.mem_append, List.mem_singleton, hg, Heedful]
  constructor
  case mp => exact fun hm => ⟨hm t (.inr rfl), fun u hu hg => hm u (.inl hu) (.inr hg)⟩
  case mpr =>
    rintro ⟨hn, ho⟩ u (hu | rfl) hg
    case inl => exact hg.elim (hs u hu) (ho u hu)
    case inr => exact hn hg

theorem goesThrough_renameTable_iff {old new : String} (h : (renameTable old new).Effect s s') :
    s'.GoesThrough n ↔ ∃ m, s.GoesThrough m ∧ (renameTable old new).name m = n := by
  have ht := h.tables_of_inOrder rfl rfl
  constructor
  case mp =>
    rintro ⟨u', hu', hg⟩
    rw [ht] at hu'
    obtain ⟨u, hu, rfl⟩ := List.mem_map.mp hu'
    obtain ⟨m, hg, he⟩ := goesThrough_of_changed rfl hg
    exact ⟨m, ⟨u, hu, hg⟩, he⟩
  case mpr =>
    rintro ⟨m, ⟨u, hu, r, hr, hg⟩, rfl⟩
    refine ⟨_, ht ▸ List.mem_map_of_mem hu, (renameTable old new).mention r, ?_, ?_⟩
    case refine_1 => simpa [changed, relationships] using ⟨r, hr, rfl⟩
    case refine_2 => simp [mention, hg]

-- A table under its new name is also gone through by what went through that name when there was no
-- such table.
theorem throughMarked_renameTable_iff {old new : String}
    (h : (renameTable old new).Effect s s') (ha : (renameTable old new).Allowed s)
    (hs : s.ThroughMarked) : s'.ThroughMarked ↔ (renameTable old new).Heedful s := by
  have hm : s'.ThroughMarked ↔ ∀ t ∈ s.tables, ∀ m, s.GoesThrough m →
      (if m = old then new else m) = (if t.name = old then new else t.name) →
        t.joinTable = true := by
    rw [Schema.ThroughMarked, h.tables_of_inOrder rfl rfl]
    simp [goesThrough_renameTable_iff h, changed, marks, name]
  rw [hm]
  constructor
  case mp => exact fun hm => .inr fun hg t ht hto => hm t ht new hg (by simp [hto])
  case mpr =>
    intro hh t ht m hg he
    split_ifs at he with hmo hto hto
    case pos => exact hs t ht (hto ▸ hmo ▸ hg)
    case neg =>
      have hn : new ∈ s.tables.map (·.name) := he ▸ List.mem_map_of_mem ht
      exact absurd (he.symm.trans (ha.resolve_right (·.1 hn)).symm) hto
    case pos =>
      exact hh.resolve_left (fun ho => hmo (he.trans ho.symm)) (he ▸ hg) t ht hto
    case neg => exact hs t ht (he ▸ hg)

theorem throughMarked_iff (h : e.Effect s s') (ha : e.Allowed s) (hs : s.ThroughMarked) :
    s'.ThroughMarked ↔ e.Heedful s := by
  cases e
  case addTable t => exact h.throughMarked_addTable_iff hs
  case renameTable old new => exact h.throughMarked_renameTable_iff ha hs
  case addRelationship => exact iff_of_true (h.throughMarked_of_marks ⟨rfl, rfl, rfl⟩ rfl) trivial
  case replaceRelationship =>
    exact iff_of_true (h.throughMarked_of_marks ⟨rfl, rfl, rfl⟩ rfl) trivial
  all_goals exact iff_of_true (h.throughMarked_of_name rfl rfl rfl hs) trivial

end Effect

end Edit

namespace Schema

variable {s : Schema} {e : Edit} {edits : List Edit}

theorem TablesDiffer.throughMarked_edited_iff (hn : s.TablesDiffer) (hs : s.ThroughMarked)
    (ha : e.Accepted s) : (s.edited e).ThroughMarked ↔ e.Heedful s :=
  (hn.effect_edited ha).throughMarked_iff (hn.accepted_iff.mp ha) hs

def Accepts (s : Schema) : List Edit → Prop
  | [] => True
  | e :: edits => e.Accepted s ∧ (s.edited e).Accepts edits

def Heeds (s : Schema) : List Edit → Prop
  | [] => True
  | e :: edits => (e.Accepted s → e.Heedful s) ∧ (s.edited e).Heeds edits

theorem TablesDiffer.throughMarked_editedAll_iff (hn : s.TablesDiffer) (hs : s.ThroughMarked) :
    (∀ done, done <+: edits → (s.editedAll done).ThroughMarked) ↔ s.Heeds edits := by
  induction edits generalizing s
  case nil => simpa [Heeds, editedAll] using hs
  case cons e edits hi =>
    -- An edit that is refused leaves the marks as they are.
    have he : (s.edited e).ThroughMarked ↔ (e.Accepted s → e.Heedful s) := by
      by_cases ha : e.Accepted s
      case pos => simp [hn.throughMarked_edited_iff hs ha, ha]
      case neg => simp [hn.edited_eq_self ha, hs, ha]
    rw [Heeds, ← he]
    constructor
    case mp =>
      intro h
      have hf : ∀ done, done <+: edits → ((s.edited e).editedAll done).ThroughMarked :=
        fun done hd => h (e :: done) <| (List.prefix_cons_inj e).mpr hd
      have hm := hf [] List.nil_prefix
      exact ⟨hm, (hi (hn.edited e) hm).mp hf⟩
    case mpr =>
      intro ⟨hm, hh⟩ done hd
      obtain rfl | ⟨rest, rfl, hr⟩ := List.prefix_cons_iff.mp hd
      case inl => exact hs
      case inr => exact (hi (hn.edited e) hm).mpr hh rest hr

theorem mem_joinTables_iff (hs : s.ThroughMarked) {t : Table} (ht : t ∈ s.tables) :
    t ∈ s.joinTables ↔ t.joinTable = true ∨ s.GoesThrough t.name := by
  rw [joinTables, List.mem_filter]
  exact ⟨fun h => .inl h.right, fun h => ⟨ht, h.elim id (hs t ht)⟩⟩

def Original (s : Schema) : Prop :=
  s = {} ∨ ∃ format bytes, read format bytes = .ok s

namespace Original

theorem wellFormed (h : s.Original) : s.WellFormed := by
  obtain rfl | ⟨_, _, h⟩ := h
  case inl => decide
  case inr =>
    have ⟨_, _, h⟩ := read_eq_ok.mp h
    exact wellFormed_of_ofRecords h

theorem throughMarked (h : s.Original) : s.ThroughMarked := by
  obtain rfl | ⟨_, _, h⟩ := h
  case inl => exact fun _ ht => absurd ht List.not_mem_nil
  case inr =>
    have ⟨_, _, h⟩ := read_eq_ok.mp h
    exact throughMarked_of_ofRecords h

end Original

-- A schema that is empty, or read from a description, and then edited: as long as the edits are
-- heedful, and no longer, all its through-tables are marked. Then they are among its join tables,
-- and the schema is the same again when it is stored and read, if what the edits bring is well
-- formed.
theorem throughMarked_original (h : s.Original) (edits : List Edit) :
    ((∀ done, done <+: edits → (s.editedAll done).ThroughMarked) ↔ s.Heeds edits) ∧
      ((s.editedAll edits).ThroughMarked →
        (∀ t ∈ (s.editedAll edits).tables, t ∈ (s.editedAll edits).joinTables ↔
          t.joinTable = true ∨ (s.editedAll edits).GoesThrough t.name) ∧
        ((∀ e ∈ edits, e.WellFormed) →
          ∃ again, read .json (s.editedAll edits).toJsonText.toUTF8 = .ok again ∧
            (s.editedAll edits).sameStructure again = true)) := by
  constructor
  · exact h.wellFormed.namesDiffer.tables.throughMarked_editedAll_iff h.throughMarked
  · refine fun hm => ⟨fun _ => mem_joinTables_iff hm, fun he => ?_⟩
    have hw : (s.editedAll edits).WellFormed := h.wellFormed.editedAll he
    exact ⟨_, read_toJsonText hw, sameStructure_markThroughTables hm⟩

def lateEdits : List Edit :=
  [.addRelationship "b"
      { kind := .manyToMany, relatedTable := "a", foreignKey := "id", relatedForeignKey := "id"
        throughTable := some "a" },
    .renameTable "a_b" "pairs"]

theorem throughMarked_original_late :
    lateSchema.Original ∧ lateSchema.Heeds lateEdits ∧ (∀ e ∈ lateEdits, e.WellFormed) ∧
      (lateSchema.editedAll lateEdits).ThroughMarked ∧
      (lateSchema.editedAll lateEdits).joinTables.map (·.name) = ["a", "pairs"] ∧
      ∃ again, read .json (lateSchema.editedAll lateEdits).toJsonText.toUTF8 = .ok again ∧
        (lateSchema.editedAll lateEdits).sameStructure again = true := by
  have ho : lateSchema.Original := .inr ⟨.json, _, read_late⟩
  have hh : lateSchema.Heeds lateEdits := ⟨fun _ => trivial, fun _ => .inr (by decide), trivial⟩
  have he : ∀ e ∈ lateEdits, e.WellFormed := by
    refine List.forall_mem_cons.mpr ⟨?_, List.forall_mem_singleton.mpr ?_⟩
    all_goals
      rw [Edit.WellFormed]
      decide
  have h := throughMarked_original ho lateEdits
  have hm := h.1.mpr hh _ List.prefix_rfl
  exact ⟨ho, hh, he, hm, by decide, (h.2 hm).2 he⟩

def completedEdits : List Edit :=
  [.addTable { name := "a_b", columns := [{ name := "id", type := "INT" }] },
    .addTable
      { name := "a"
        columns := [{ name := "id", type := "INT" }]
        relationships := [
          { kind := .manyToMany, relatedTable := "a", foreignKey := "id"
            relatedForeignKey := "id", throughTable := some "a_b" }] }]

theorem not_throughMarked_completed :
    ({} : Schema).Accepts completedEdits ∧
      ¬(({} : Schema).editedAll completedEdits).ThroughMarked :=
  ⟨⟨by decide, by decide, trivial⟩, by decide⟩

end Schema

end Relational
