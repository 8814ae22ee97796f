import Relational.Proofs.Schema.Editing

namespace Relational

namespace Schema

structure NamesDiffer (s : Schema) : Prop where
  tables  : s.TablesDiffer
  columns : ∀ t ∈ s.tables, (t.columns.map (·.name)).Nodup

instance (s : Schema) : Decidable s.NamesDiffer :=
  decidable_of_iff
    (s.TablesDiffer ∧ ∀ t ∈ s.tables, (t.columns.map (·.name)).Nodup)
    ⟨fun h => ⟨h.1, h.2⟩, fun h => ⟨h.tables, h.columns⟩⟩

theorem WellFormed.namesDiffer {s : Schema} (h : s.WellFormed) : s.NamesDiffer where
  tables  := h.tablesDiffer
  columns := fun t ht => (h.tables t ht).columnsDiffer

end Schema

namespace Edit

variable {e : Edit} {s s' : Schema} {t : Table}

def Sound : Edit → Prop
  | addTable t => (t.columns.map (·.name)).Nodup
  | _ => True

def WellFormed : Edit → Prop
  | addTable t => t.WellFormed
  | renameTable _ new => Text.Tidy new
  | addColumn _ c | replaceColumn _ _ c => c.WellFormed
  | addRelationship _ r | replaceRelationship _ _ r => r.WellFormed
  | _ => True

theorem WellFormed.sound (h : e.WellFormed) : e.Sound := by
  cases e
  case addTable => exact h.columnsDiffer
  all_goals trivial

theorem name_inj (ha : e.Allowed s) {n m : String} (hn : n ∈ s.tables.map (·.name))
    (hm : m ∈ s.tables.map (·.name)) (h : e.name n = e.name m) : n = m := by
  cases e
  case renameTable old new =>
    simp only [name] at h
    grind [Allowed]
  all_goals exact h

theorem nodup_columns (hn : s.NamesDiffer) (ha : e.Allowed s) (ht : t ∈ s.tables)
    (hm : t.name = e.table) : ((e.columns t.columns).map (·.name)).Nodup := by
  have hc := hn.columns t ht
  cases e
  case addColumn table c =>
    have hd : c.name ∉ t.columns.map (·.name) := (hn.tables.exists_named_iff ht hm).mp ha
    rw [columns, List.map_append]
    exact List.nodup_append_comm.mp <| List.nodup_cons.mpr ⟨hd, hc⟩
  case removeColumn table column => exact hc.sublist <| List.eraseP_sublist.map _
  case replaceColumn table column c =>
    have ⟨_, hd⟩ := (hn.tables.exists_named_iff ht hm).mp ha
    rw [columns, List.map_set]
    obtain rfl | hd := hd
    case inl =>
      rw [← set_findIdx_eq_self (t.columns.map (·.name)) c.name, List.findIdx_map] at hc
      exact hc
    case inr => exact hc.set hd
  all_goals exact hc

namespace WellFormed

theorem name (h : e.WellFormed) {n : String} (hn : Text.Tidy n) : Text.Tidy (e.name n) := by
  cases e
  case renameTable old new =>
    simp only [Edit.name]
    split_ifs
    case pos => exact h
    case neg => exact hn
  all_goals exact hn

theorem mention (h : e.WellFormed) {r : Relationship} (hr : r.WellFormed) :
    (e.mention r).WellFormed where
  relatedTable := h.name hr.relatedTable
  foreignKey := hr.foreignKey
  relatedForeignKey := hr.relatedForeignKey
  throughTable := by
    intro n hn
    obtain ⟨m, hm, rfl⟩ := Option.map_eq_some_iff.mp hn
    exact h.name <| hr.throughTable m hm
  oneToMany := fun hk => Option.map_eq_none_iff.mpr <| hr.oneToMany hk

theorem columns (h : e.WellFormed) {cs : List Column} (hc : ∀ c ∈ cs, c.WellFormed) :
    ∀ c ∈ e.columns cs, c.WellFormed := by
  intro c hm
  cases e
  case addColumn =>
    obtain hm | hm := List.mem_append.mp hm
    case inl => exact hc c hm
    case inr => exact List.mem_singleton.mp hm ▸ h
  case removeColumn => exact hc c <| List.mem_of_mem_eraseP hm
  case replaceColumn =>
    obtain hm | rfl := List.mem_or_eq_of_mem_set hm
    case inl => exact hc c hm
    case inr => exact h
  all_goals exact hc c hm

theorem relationships (h : e.WellFormed) {rs : List Relationship}
    (hr : ∀ r ∈ rs, r.WellFormed) : ∀ r ∈ e.relationships rs, r.WellFormed := by
  intro r hm
  cases e
  case addRelationship =>
    obtain hm | hm := List.mem_append.mp hm
    case inl => exact hr r hm
    case inr => exact List.mem_singleton.mp hm ▸ h
  case removeRelationships => exact hr r <| List.mem_of_mem_filter hm
  case replaceRelationship =>
    obtain hm | rfl := List.mem_or_eq_of_mem_set hm
    case inl => exact hr r hm
    case inr => exact h
  all_goals exact hr r hm

end WellFormed

theorem Meets.of_applyTo {α : Type} {c : Change α} (h : e.Meets s (c.run s))
    (hs : (c.applyTo s).map (·.2) = .ok s') : e.Allowed s ∧ e.Effect s s' := by
  unfold Change.applyTo at hs
  cases hc : c.run s
  case ok a s₁ =>
    rw [hc] at h hs
    cases hs
    exact h
  case error =>
    rw [hc] at hs
    cases hs

theorem Meets.exists_applyTo {α : Type} {c : Change α} (h : e.Meets s (c.run s))
    (ha : e.Allowed s) : ∃ s', (c.applyTo s).map (·.2) = .ok s' ∧ e.Effect s s' := by
  unfold Change.applyTo
  cases hc : c.run s
  case ok a s₁ =>
    rw [hc] at h
    exact ⟨s₁, rfl, h.2⟩
  case error =>
    rw [hc] at h
    exact absurd ha h.1

namespace Effect

theorem tables_of_inOrder (h : e.Effect s s') (hk : e.keeps = fun _ => true)
    (hn : e.newTables = []) : s'.tables = s.tables.map (e.changed s') := by
  simpa [hk, hn] using h.tables

theorem mem_tables (h : e.Effect s s') {t' : Table} (ht : t' ∈ s'.tables) :
    (∃ t ∈ s.tables, e.changed s' t = t') ∨ e = addTable t' := by
  rw [h.tables, List.mem_append] at ht
  obtain ht | ht := ht
  case inl =>
    have ⟨t, ht, he⟩ := List.mem_map.mp ht
    exact .inl ⟨t, List.mem_of_mem_filter ht, he⟩
  case inr =>
    cases e
    case addTable t => exact .inr (List.mem_singleton.mp ht ▸ rfl)
    all_goals exact absurd ht List.not_mem_nil

theorem names (h : e.Effect s s') :
    s'.tables.map (·.name) =
      ((s.tables.map (·.name)).filter e.keeps).map e.name ++ e.newTables.map (·.name) := by
  rw [h.tables, List.map_append, List.map_map, List.filter_map, List.map_map]
  rfl

theorem tablesDiffer (h : e.Effect s s') (ha : e.Allowed s) (hn : s.TablesDiffer) :
    s'.TablesDiffer := by
  have hk : (((s.tables.map (·.name)).filter e.keeps).map e.name).Nodup :=
    (List.Nodup.filter _ hn).map_on fun n hn m hm =>
      name_inj ha (List.mem_of_mem_filter hn) (List.mem_of_mem_filter hm)
  rw [Schema.TablesDiffer, h.names]
  cases e
  case addTable t =>
    have hd : (t.name :: s.tables.map (·.name)).Nodup := List.nodup_cons.mpr ⟨ha, hn⟩
    simpa [keeps, name, newTables] using List.nodup_append_comm.mp hd
  all_goals simpa [newTables] using hk

theorem namesDiffer (h : e.Effect s s') (he : e.Sound) (ha : e.Allowed s) (hn : s.NamesDiffer) :
    s'.NamesDiffer where
  tables := h.tablesDiffer ha hn.tables
  columns := by
    intro t' ht'
    obtain ⟨t, ht, rfl⟩ | rfl := h.mem_tables ht'
    case inl =>
      simp only [changed]
      split_ifs with hm
      case pos => exact nodup_columns hn ha ht hm
      case neg => exact hn.columns t ht
    case inr => exact he

theorem wellFormed (h : e.Effect s s') (he : e.WellFormed) (ha : e.Allowed s)
    (hs : s.WellFormed) : s'.WellFormed := by
  have hn : s'.NamesDiffer := h.namesDiffer he.sound ha hs.namesDiffer
  refine ⟨fun t' ht' => ?_, hn.tables⟩
  have hd := hn.columns t' ht'
  obtain ⟨t, ht, rfl⟩ | rfl := h.mem_tables ht'
  case inl =>
    have ht := hs.tables t ht
    refine ⟨he.name ht.name, ?_, hd, ?_⟩
    case refine_1 =>
      simp only [changed]
      split_ifs
      case pos => exact he.columns ht.columns
      case neg => exact ht.columns
    case refine_2 =>
      simp only [changed, List.forall_mem_map]
      split_ifs
      case pos => exact fun r hr => he.mention <| he.relationships ht.relationships r hr
      case neg => exact fun r hr => he.mention <| ht.relationships r hr
  case inr => exact he

theorem other_mem (h : e.Effect s s') (ht : t ∈ s.tables) (hm : t.name ≠ e.table) :
    { t with
      relationships := t.relationships.map e.mention
      joinTable := t.joinTable || (e.marks && decide (s'.GoesThrough t.name)) } ∈ s'.tables := by
  have hk : e.keeps t.name := by
    cases e
    case removeTable table => exact bne_iff_ne.mpr hm
    all_goals rfl
  rw [h.tables, ← changed_of_ne hm]
  exact List.mem_append_left _ <| List.mem_map_of_mem <| List.mem_filter.mpr ⟨ht, hk⟩

end Effect

def Accepted (e : Edit) (s : Schema) : Prop :=
  ∃ s', e.change.run s = .ok () s'

instance (e : Edit) (s : Schema) : Decidable (e.Accepted s) :=
  match h : e.change.run s with
  | .ok _ s' => isTrue ⟨s', h⟩
  | .error _ _ => isFalse fun ⟨_, ha⟩ => nomatch h.symm.trans ha

end Edit

namespace Schema

variable {s : Schema} {e : Edit} {edits : List Edit}

def edited (s : Schema) (e : Edit) : Schema :=
  match e.change.run s with
  | .ok _ s' | .error _ s' => s'

def editedAll (s : Schema) (edits : List Edit) : Schema :=
  edits.foldl edited s

namespace TablesDiffer

theorem accepted_iff (hn : s.TablesDiffer) : e.Accepted s ↔ e.Allowed s := by
  have hm := Edit.meets_change hn e
  unfold Edit.Accepted
  cases hr : e.change.run s
  case ok => simpa using (hr ▸ hm).1
  case error => simpa using (hr ▸ hm).1

theorem effect_edited (hn : s.TablesDiffer) (ha : e.Accepted s) : e.Effect s (s.edited e) := by
  have hm := Edit.meets_change hn e
  obtain ⟨s', hr⟩ := ha
  rw [edited, hr]
  exact (hr ▸ hm).2

theorem edited_eq_self (hn : s.TablesDiffer) (ha : ¬e.Accepted s) : s.edited e = s := by
  have hm := Edit.meets_change hn e
  unfold Schema.edited
  cases hr : e.change.run s
  case ok s' => exact absurd ⟨s', hr⟩ ha
  case error => exact (hr ▸ hm).2

theorem edited (hn : s.TablesDiffer) (e : Edit) : (s.edited e).TablesDiffer := by
  by_cases ha : e.Accepted s
  case pos => exact (hn.effect_edited ha).tablesDiffer (hn.accepted_iff.mp ha) hn
  case neg => rwa [hn.edited_eq_self ha]

end TablesDiffer

theorem TablesDiffer.editedAll_induction {P : Schema → Prop} (hn : s.TablesDiffer)
    (hp : ∀ s s', ∀ e ∈ edits, e.Allowed s → e.Effect s s' → P s → P s') (h : P s) :
    P (s.editedAll edits) := by
  induction edits generalizing s
  case nil => exact h
  case cons e edits hi =>
    have he : P (s.edited e) := by
      by_cases ha : e.Accepted s
      case pos =>
        exact hp s _ e List.mem_cons_self (hn.accepted_iff.mp ha) (hn.effect_edited ha) h
      case neg => rwa [hn.edited_eq_self ha]
    exact hi (hn.edited e) (fun s s' f hf => hp s s' f <| List.mem_cons_of_mem e hf) he

theorem NamesDiffer.editedAll (hn : s.NamesDiffer) (he : ∀ e ∈ edits, e.Sound) :
    (s.editedAll edits).NamesDiffer :=
  hn.tables.editedAll_induction (fun _ _ e hm ha h hn => h.namesDiffer (he e hm) ha hn) hn

theorem WellFormed.editedAll (hs : s.WellFormed) (he : ∀ e ∈ edits, e.WellFormed) :
    (s.editedAll edits).WellFormed :=
  hs.namesDiffer.tables.editedAll_induction
    (fun _ _ e hm ha h hs => h.wellFormed (he e hm) ha hs) hs

-- A step of a run of edits: it is refused without any trace, or it does what it says to the tables
-- that it is about and nothing to the others, apart from their mentions and marks.
structure ConsistentAt (s : Schema) (e : Edit) : Prop where
  namesDiffer : (s.edited e).NamesDiffer
  accepted    : e.Accepted s ↔ e.Allowed s
  refused     : ¬e.Accepted s → s.edited e = s
  effect      : e.Accepted s → e.Effect s (s.edited e)
  others      : e.Accepted s → ∀ t ∈ s.tables, t.name ≠ e.table →
    { t with
      relationships := t.relationships.map e.mention
      joinTable := t.joinTable || (e.marks && decide ((s.edited e).GoesThrough t.name)) } ∈
        (s.edited e).tables

theorem consistentAt_edits (hn : s.NamesDiffer) (he : ∀ e ∈ edits, e.Sound)
    {done rest : List Edit} (h : edits = done ++ e :: rest) :
    (s.editedAll done).ConsistentAt e := by
  subst h
  have hd : (s.editedAll done).NamesDiffer :=
    hn.editedAll fun f hf => he f <| List.mem_append_left _ hf
  exact {
    namesDiffer := hd.editedAll <| List.forall_mem_singleton.mpr <|
      he e <| List.mem_append_right _ List.mem_cons_self
    accepted    := hd.tables.accepted_iff
    refused     := hd.tables.edited_eq_self
    effect      := hd.tables.effect_edited
    others      := fun ha _ ht hm => (hd.tables.effect_edited ha).other_mem ht hm
  }

def bookings : Schema where
  tables := [
    { name := "guest"
      columns := [{ name := "id", type := "INT" }, { name := "mail", type := "TEXT" }]
      relationships := [
        { kind := .manyToMany
          relatedTable := "room"
          foreignKey := "id"
          relatedForeignKey := "id"
          throughTable := "stay" }] },
    { name := "room", columns := [{ name := "id", type := "INT" }] }]

def bookingEdits : List Edit :=
  [.addTable { name := "booking", columns := [{ name := "guest_id", type := "INT" }] },
    .replaceColumn "guest" "mail" { name := "id", type := "TEXT" },
    .renameTable "room" "chamber",
    .removeRelationships "guest" "room"]

theorem consistentAt_edits_bookings :
    bookings.NamesDiffer ∧ (∀ e ∈ bookingEdits, e.Sound) ∧
      (bookings.editedAll (bookingEdits.take 2)).ConsistentAt (.renameTable "room" "chamber") := by
  have hn : bookings.NamesDiffer := by decide
  have he : ∀ e ∈ bookingEdits, e.Sound := by simp [bookingEdits, Edit.Sound]
  exact ⟨hn, he, consistentAt_edits hn he rfl⟩

end Schema

end Relational
