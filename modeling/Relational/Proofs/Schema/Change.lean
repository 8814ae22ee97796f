import Relational.Proofs.Schema.WellFormed
import Relational.Schema.Edit

namespace Relational

section Keys

variable {α β : Type} [DecidableEq β] {key : α → β} {items : List α}

theorem changeFirst_eq_map (hn : (items.map key).Nodup) (k : β) (f : α → α) :
    changeFirst (key · == k) f items = items.map fun a => if key a = k then f a else a := by
  unfold changeFirst
  induction items
  case nil => rfl
  case cons a items hi =>
    have ⟨ha, hn⟩ := List.nodup_cons.mp hn
    unfold changeFirst?
    split_ifs with hk
    case pos =>
      have hk : key a = k := by simpa using hk
      have hr : ∀ b ∈ items, (if key b = k then f b else b) = id b := fun b hb =>
        if_neg fun hb' => ha <| List.mem_map.mpr ⟨b, hb, hb'.trans hk.symm⟩
      rw [Option.getD_some, List.map_cons, if_pos hk, List.map_congr_left hr, List.map_id]
    case neg =>
      have hk : key a ≠ k := by simpa using hk
      rw [List.map_cons, if_neg hk, ← hi hn]
      cases changeFirst? (key · == k) f items
      case none => rfl
      case some => rfl

theorem eraseP_eq_filter (hn : (items.map key).Nodup) (k : β) :
    items.eraseP (key · == k) = items.filter (key · != k) := by
  induction items
  case nil => rfl
  case cons a items hi =>
    have ⟨ha, hn⟩ := List.nodup_cons.mp hn
    by_cases hk : key a = k
    case pos =>
      have hr : items.filter (key · != k) = items :=
        List.filter_eq_self.mpr fun b hb => by
          simpa using fun hb' => ha <| List.mem_map.mpr ⟨b, hb, hb'.trans hk.symm⟩
      rw [List.eraseP_cons_of_pos (by simpa using hk), List.filter_cons_of_neg (by simpa using hk),
        hr]
    case neg =>
      rw [List.eraseP_cons_of_neg (by simpa using hk), List.filter_cons_of_pos (by simpa using hk),
        hi hn]

theorem set_findIdx_eq_self (keys : List β) (k : β) :
    keys.set (keys.findIdx (· == k)) k = keys := by
  induction keys
  case nil => rfl
  case cons a keys hi =>
    rw [List.findIdx_cons]
    cases hk : a == k
    case true => simpa using (eq_of_beq hk).symm
    case false => simpa using hi

end Keys

theorem changeFirst_eq_set {α : Type} (p : α → Bool) (b : α) (items : List α) :
    changeFirst p (fun _ => b) items = items.set (items.findIdx p) b := by
  unfold changeFirst
  induction items
  case nil => rfl
  case cons a items hi =>
    unfold changeFirst?
    split_ifs with ha
    case pos => simp [List.findIdx_cons, ha]
    case neg =>
      simp only [List.findIdx_cons, ha, cond_false, List.set_cons_succ, ← hi]
      cases changeFirst? p (fun _ => b) items
      case none => rfl
      case some => rfl

theorem Table.hasColumn_iff {t : Table} {name : String} :
    t.hasColumn name ↔ name ∈ t.columns.map (·.name) := by
  simp [hasColumn, column?]

namespace Schema

variable {s : Schema} {name : String}

def TablesDiffer (s : Schema) : Prop :=
  (s.tables.map (·.name)).Nodup

instance (s : Schema) : Decidable s.TablesDiffer :=
  inferInstanceAs (Decidable (s.tables.map (·.name)).Nodup)

theorem hasTable_iff : s.hasTable name ↔ name ∈ s.tables.map (·.name) := by
  simp [hasTable, table?]

theorem mem_of_table? {t : Table} (h : s.table? name = some t) : t ∈ s.tables ∧ t.name = name :=
  ⟨List.mem_of_find?_eq_some h, by simpa using List.find?_some h⟩

theorem table?_eq_none : s.table? name = none ↔ name ∉ s.tables.map (·.name) := by
  simp [table?]

theorem TablesDiffer.eq_of_name_eq (h : s.TablesDiffer) {t u : Table} (ht : t ∈ s.tables)
    (hu : u ∈ s.tables) (hn : t.name = u.name) : t = u :=
  List.inj_on_of_nodup_map h ht hu hn

theorem TablesDiffer.exists_named_iff (h : s.TablesDiffer) {t : Table} (ht : t ∈ s.tables)
    (hn : t.name = name) {p : Table → Prop} :
    (∃ u ∈ s.tables, u.name = name ∧ p u) ↔ p t := by
  constructor
  case mp =>
    intro ⟨u, hu, hm, hp⟩
    exact h.eq_of_name_eq hu ht (hm.trans hn.symm) ▸ hp
  case mpr => exact fun hp => ⟨t, ht, hn, hp⟩

theorem modifyTables_eq_self {f : Table → Table} (h : ∀ t ∈ s.tables, f t = t) :
    s.modifyTables f = s := by
  rw [modifyTables, List.map_congr_left h, List.map_id']

end Schema

namespace Change

variable {α : Type} {s : Schema}

theorem run_existingTable_bind (name : String) (k : Table → Change α) (s : Schema) :
    (existingTable name >>= k).run s =
      match s.table? name with
      | some t => (k t).run s
      | none => .error (.tableNotFound name) s := by
  simp only [existingTable, EStateM.run_bind, EStateM.run_get]
  cases s.table? name
  case none => rfl
  case some => rfl

theorem run_changeTable (h : s.TablesDiffer) (name : String) (f : Table → Table) :
    (changeTable name f).run s =
      .ok () (s.modifyTables fun t => if t.name = name then f t else t) := by
  rw [Schema.modifyTables, ← changeFirst_eq_map h, changeFirst, changeTable,
    EStateM.run_modify, Schema.modifyTable?]
  cases changeFirst? (·.name == name) f s.tables
  case none => rfl
  case some => rfl

end Change

end Relational
