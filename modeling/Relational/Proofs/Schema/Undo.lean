import Relational.Proofs.Schema.EditRun

namespace Relational

variable {old new name : String}

theorem renamed_renamed (h : name ≠ new) : renamed new old (renamed old new name) = name := by
  by_cases ho : name = old
  case pos => simp [renamed, ho]
  case neg => simp [renamed, ho, h]

theorem renamed_ne (h : old ≠ new) : renamed old new name ≠ old := by
  unfold renamed
  split_ifs with ho
  case pos => exact h.symm
  case neg => exact ho

namespace Relationship

variable {r : Relationship}

def Mentions (r : Relationship) (name : String) : Prop :=
  r.relatedTable = name ∨ r.throughTable = some name

instance (r : Relationship) : Decidable (r.Mentions name) :=
  inferInstanceAs (Decidable (_ ∨ _))

theorem rename_rename (h : ¬r.Mentions new) : (r.rename old new).rename new old = r := by
  have ⟨hr, ht⟩ := not_or.mp h
  have hthrough :
      (r.throughTable.map (renamed old new)).map (renamed new old) = r.throughTable := by
    cases hm : r.throughTable
    case none => rfl
    case some through =>
      have hne : through ≠ new := fun he => ht (he ▸ hm)
      exact congrArg some (renamed_renamed hne)
  simp only [rename, renamed_renamed hr, hthrough]

theorem not_mentions_rename (h : old ≠ new) : ¬(r.rename old new).Mentions old := by
  rintro (hr | ht)
  case inl => exact renamed_ne h hr
  case inr =>
    have ⟨_, _, ht⟩ := Option.map_eq_some_iff.mp ht
    exact renamed_ne h ht

end Relationship

namespace Table

variable {t : Table}

def Uses (t : Table) (name : String) : Prop :=
  t.name = name ∨ ∃ r ∈ t.relationships, r.Mentions name

instance (t : Table) : Decidable (t.Uses name) :=
  inferInstanceAs (Decidable (_ ∨ ∃ r ∈ t.relationships, r.Mentions name))

def rename (t : Table) (old new : String) : Table :=
  { t.renameMentions old new with name := renamed old new t.name }

theorem rename_rename (h : ¬t.Uses new) : (t.rename old new).rename new old = t := by
  have ⟨hn, hr⟩ := not_or.mp h
  have hrs : (t.relationships.map (·.rename old new)).map (·.rename new old) = t.relationships := by
    rw [List.map_map]
    refine (List.map_congr_left fun r hm => ?_).trans t.relationships.map_id
    exact Relationship.rename_rename fun he => hr ⟨r, hm, he⟩
  simp only [rename, renameMentions, renamed_renamed hn, hrs]

theorem not_uses_rename (h : old ≠ new) : ¬(t.rename old new).Uses old := by
  rintro (hn | ⟨r, hr, hm⟩)
  case inl => exact renamed_ne h hn
  case inr =>
    obtain ⟨r, _, rfl⟩ := List.mem_map.mp hr
    exact Relationship.not_mentions_rename h hm

end Table

theorem Edit.Effect.tables_renameTable {s s' : Schema} (h : (renameTable old new).Effect s s') :
    s'.tables = s.tables.map (·.rename old new) := by
  rw [h.tables_of_inOrder rfl rfl]
  exact List.map_congr_left fun t _ => changed_of_id rfl rfl rfl s' t

namespace Schema

variable {s s' : Schema}

def Uses (s : Schema) (name : String) : Prop :=
  ∃ t ∈ s.tables, t.Uses name

instance (s : Schema) : Decidable (s.Uses name) :=
  inferInstanceAs (Decidable (∃ t ∈ s.tables, t.Uses name))

theorem mem_names_renamed (ht : s'.tables = s.tables.map (·.rename old new))
    (ho : old ∈ s.tables.map (·.name)) : new ∈ s'.tables.map (·.name) := by
  obtain ⟨t, hm, rfl⟩ := List.mem_map.mp ho
  rw [ht]
  exact List.mem_map.mpr ⟨_, List.mem_map_of_mem hm, if_pos rfl⟩

theorem not_uses_renamed (ht : s'.tables = s.tables.map (·.rename old new)) (h : old ≠ new) :
    ¬s'.Uses old := by
  rintro ⟨t, hm, hu⟩
  rw [ht] at hm
  obtain ⟨t, _, rfl⟩ := List.mem_map.mp hm
  exact Table.not_uses_rename h hu

-- A table that is given a name which was used nowhere can be given its old name back: the schema is
-- the same again, and in between the old name is used nowhere.
theorem renameTable_undone (hn : s.TablesDiffer) (ho : old ∈ s.tables.map (·.name))
    (hw : ¬s.Uses new) :
    ∃ s', s.renameTable old new = .ok s' ∧ ¬s'.Uses old ∧ s'.renameTable new old = .ok s := by
  have hfree : new ∉ s.tables.map (·.name) := by
    intro hm
    obtain ⟨t, hm, he⟩ := List.mem_map.mp hm
    exact hw ⟨t, hm, .inl he⟩
  have hne : old ≠ new := fun he => hfree (he ▸ ho)
  have ha : (Edit.renameTable old new).Allowed s := .inr ⟨hfree, ho⟩
  have ⟨s', hs', he⟩ := (Edit.meets_renameTable hn old new).exists_applyTo ha
  have ht := he.tables_renameTable
  have hu : ¬s'.Uses old := not_uses_renamed ht hne
  have hn' : s'.TablesDiffer := he.tablesDiffer ha hn
  -- The old name has become free, so it may be given again.
  have ha' : (Edit.renameTable new old).Allowed s' := by
    refine .inr ⟨fun hm => ?_, mem_names_renamed ht ho⟩
    obtain ⟨t, hm, he⟩ := List.mem_map.mp hm
    exact hu ⟨t, hm, .inl he⟩
  have ⟨s'', hs'', he'⟩ := (Edit.meets_renameTable hn' new old).exists_applyTo ha'
  have htables : s''.tables = s.tables := by
    rw [he'.tables_renameTable, ht, List.map_map]
    refine (List.map_congr_left fun t hm => ?_).trans s.tables.map_id
    exact Table.rename_rename fun hu => hw ⟨t, hm, hu⟩
  have hsource : s''.source = s.source := he'.source.trans he.source
  obtain rfl : s'' = s := by
    cases s
    cases s''
    cases htables
    cases hsource
    rfl
  exact ⟨s', hs', hu, hs''⟩

def kinship : Schema where
  tables := [
    { name := "person"
      columns := [{ name := "id", type := "INT" }]
      relationships := [
        ⟨.manyToMany, "person", "id", "id", some "person"⟩,
        ⟨.manyToMany, "house", "id", "id", some "person"⟩,
        ⟨.oneToMany, "clan", "id", "id", none⟩] },
    { name := "household"
      relationships := [⟨.manyToMany, "person", "id", "id", some "house"⟩] }]
  source := "kin.json"

theorem renameTable_undone_kinship :
    kinship.TablesDiffer ∧ "person" ∈ kinship.tables.map (·.name) ∧ ¬kinship.Uses "member" ∧
    ∃ s', kinship.renameTable "person" "member" = .ok s' ∧ s' ≠ kinship ∧ ¬s'.Uses "person" ∧
      s'.renameTable "member" "person" = .ok kinship := by
  have hn : kinship.TablesDiffer := by decide
  have ho : "person" ∈ kinship.tables.map (·.name) := by decide
  have hw : ¬kinship.Uses "member" := by decide
  have ⟨s', h, hu, hb⟩ := renameTable_undone hn ho hw
  refine ⟨hn, ho, hw, s', h, ?_, hu, hb⟩
  rintro rfl
  exact hu ⟨_, List.mem_cons_self, .inl rfl⟩

end Schema

end Relational
