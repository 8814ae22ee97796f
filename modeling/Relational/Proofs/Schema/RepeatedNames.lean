import Mathlib.Data.List.Nodup
import Mathlib.Order.Nat
import Relational.Proofs.Schema.Naming

namespace Relational

def RepeatsAt (names : List String) (i : Nat) : Prop :=
  ∃ name, names[i]? = some name ∧ ∃ j < i, names[j]? = some name

-- What a conflict says holds of the names: its name stands at both positions, and nowhere before
-- the first.
structure NamingConflict.Among (names : List String) (c : NamingConflict) : Prop where
  duplicate : names[c.duplicate]? = some c.name
  first : IsLeast {i | names[i]? = some c.name} c.first
  first_lt : c.first < c.duplicate

def conflictPositions (tables : List Table) : List Nat :=
  (namingConflicts tables).map (·.duplicate)

def withoutAt {α : Type} (positions : List Nat) (items : List α) : List α :=
  (items.zipIdx.filter fun (_, i) => i ∉ positions).map (·.1)

variable {names before after : List String} {name : String} {i : Nat} {c : NamingConflict}
  {tables : List Table} {positions : List Nat}

theorem idxOf?_eq_some_iff_isLeast :
    names.idxOf? name = some i ↔ IsLeast {j | names[j]? = some name} i := by
  rw [List.idxOf?_eq_some_iff]
  constructor
  case mp =>
    intro ⟨hi, he, hl⟩
    refine ⟨List.getElem?_eq_some_iff.mpr ⟨hi, he⟩, fun j hj => ?_⟩
    have ⟨_, hj⟩ := List.getElem?_eq_some_iff.mp hj
    by_contra hlt
    exact hl j (Nat.lt_of_not_le hlt) hj
  case mpr =>
    intro ⟨hi, hl⟩
    have ⟨hi, he⟩ := List.getElem?_eq_some_iff.mp hi
    refine ⟨hi, he, fun j hj hn => Nat.not_le_of_lt hj (hl ?_)⟩
    exact List.getElem?_eq_some_iff.mpr ⟨hj.trans hi, hn⟩

theorem exists_isLeast (h : name ∈ names) : ∃ i : Nat, IsLeast {j | names[j]? = some name} i :=
  ⟨_, Nat.isLeast_find (List.mem_iff_getElem?.mp h)⟩

theorem not_repeatsAt_of_isLeast (h : IsLeast {j | names[j]? = some name} i) :
    ¬RepeatsAt names i := by
  intro ⟨name', hi, j, hlt, hj⟩
  obtain rfl : name = name' := Option.some.inj (h.1.symm.trans hi)
  exact Nat.not_le_of_lt hlt (h.2 hj)

theorem NamingConflict.Among.repeatsAt (h : c.Among names) : RepeatsAt names c.duplicate :=
  ⟨c.name, h.duplicate, c.first, h.first_lt, h.first.1⟩

theorem RepeatsAt.exists_among (h : RepeatsAt names i) :
    ∃ c : NamingConflict, c.Among names ∧ c.duplicate = i := by
  have ⟨name, hi, j, hlt, hj⟩ := h
  have ⟨first, hf⟩ := exists_isLeast (List.mem_iff_getElem?.mpr ⟨j, hj⟩)
  exact ⟨⟨name, first, i⟩, ⟨hi, hf, (hf.2 hj).trans_lt hlt⟩, rfl⟩

theorem among_iff_of_duplicate (h : c.duplicate = before.length) :
    c.Among (before ++ name :: after) ↔ c.name = name ∧ before.idxOf? name = some c.first := by
  have hd : (before ++ name :: after)[c.duplicate]? = some name := by simp [h]
  have hb {i : Nat} (hi : i < c.duplicate) : (before ++ name :: after)[i]? = before[i]? :=
    List.getElem?_append_left (h ▸ hi)
  rw [idxOf?_eq_some_iff_isLeast]
  constructor
  case mp =>
    intro ⟨hn, ⟨hf, hl⟩, hlt⟩
    obtain rfl : c.name = name := Option.some.inj (hn.symm.trans hd)
    refine ⟨rfl, (hb hlt).symm.trans hf, fun i hi => hl ?_⟩
    exact (List.getElem?_append_left (List.getElem?_eq_some_iff.mp hi).1).trans hi
  case mpr =>
    rintro ⟨rfl, hf, hl⟩
    have hlt : c.first < c.duplicate := h ▸ (List.getElem?_eq_some_iff.mp hf).1
    refine ⟨hd, ⟨(hb hlt).trans hf, fun i hi => ?_⟩, hlt⟩
    rcases Nat.lt_or_ge i c.duplicate with hi' | hi'
    · exact hl ((hb hi').symm.trans hi)
    · exact hlt.le.trans hi'

theorem mem_namingConflictsAfter_cons {t : Table} :
    c ∈ namingConflictsAfter before (t :: tables) ↔
      (c.duplicate = before.length ∧ c.name = t.name ∧ before.idxOf? t.name = some c.first) ∨
        c ∈ namingConflictsAfter (before ++ [t.name]) tables := by
  rw [namingConflictsAfter]
  cases before.idxOf? t.name
  case none => simp
  case some first =>
    cases c
    simp only [List.mem_cons, NamingConflict.mk.injEq, Option.some.injEq]
    tauto

theorem mem_namingConflictsAfter :
    c ∈ namingConflictsAfter before tables ↔
      before.length ≤ c.duplicate ∧ c.Among (before ++ tables.map (·.name)) := by
  induction tables generalizing before
  case nil =>
    simp only [namingConflictsAfter, List.not_mem_nil, List.map_nil, List.append_nil, false_iff]
    intro h
    have hl : c.duplicate < before.length := (List.getElem?_eq_some_iff.mp h.2.duplicate).1
    exact Nat.not_le_of_lt hl h.1
  case cons t tables hi =>
    rw [mem_namingConflictsAfter_cons, hi, ← List.append_cons, List.map_cons,
      List.length_append, List.length_singleton]
    have hl : c.duplicate = before.length ∨ before.length + 1 ≤ c.duplicate ↔
        before.length ≤ c.duplicate := by omega
    rw [← hl, or_and_right, and_congr_right among_iff_of_duplicate]

theorem mem_namingConflicts : c ∈ namingConflicts tables ↔ c.Among (tables.map (·.name)) := by
  simp [namingConflicts, mem_namingConflictsAfter]

theorem pairwise_namingConflictsAfter (before : List String) (tables : List Table) :
    (namingConflictsAfter before tables).Pairwise (·.duplicate < ·.duplicate) := by
  induction tables generalizing before
  case nil => exact .nil
  case cons t tables hi =>
    rw [namingConflictsAfter]
    cases before.idxOf? t.name
    case none => exact hi _
    case some first =>
      refine List.pairwise_cons.mpr ⟨fun c hc => ?_, hi _⟩
      have hl := (mem_namingConflictsAfter.mp hc).1
      rwa [List.length_append] at hl

theorem mem_conflictPositions :
    i ∈ conflictPositions tables ↔ RepeatsAt (tables.map (·.name)) i := by
  simp only [conflictPositions, List.mem_map, mem_namingConflicts]
  exact ⟨fun ⟨_, hc, he⟩ => he ▸ hc.repeatsAt, RepeatsAt.exists_among⟩

theorem map_withoutAt {α β : Type} (f : α → β) (positions : List Nat) (items : List α) :
    (withoutAt positions items).map f = withoutAt positions (items.map f) := by
  simp [withoutAt, List.zipIdx_map, List.filter_map, Function.comp_def]

theorem mem_withoutAt {α : Type} {a : α} {items : List α} :
    a ∈ withoutAt positions items ↔ ∃ i ∉ positions, items[i]? = some a := by
  simp [withoutAt, List.mem_zipIdx_iff_getElem?, and_comm]

theorem nodup_withoutAt (h : ∀ i, RepeatsAt names i → i ∈ positions) :
    (withoutAt positions names).Nodup := by
  have hp : names.zipIdx.Pairwise (·.2 < ·.2) := by
    rw [← List.pairwise_map, List.zipIdx_map_snd]
    exact List.pairwise_lt_range'
  refine List.pairwise_map.mpr ((hp.filter _).imp_of_mem fun {a b} ha hb hlt he => ?_)
  simp only [List.mem_filter, List.mem_zipIdx_iff_getElem?, decide_eq_true_eq] at ha hb
  exact hb.2 (h b.2 ⟨b.1, hb.1, a.2, hlt, he ▸ ha.1⟩)

theorem mem_withoutAt_iff_mem (h : ∀ i ∈ positions, RepeatsAt names i) :
    name ∈ withoutAt positions names ↔ name ∈ names := by
  rw [mem_withoutAt, List.mem_iff_getElem?]
  constructor
  case mp => exact fun ⟨i, _, hi⟩ => ⟨i, hi⟩
  case mpr =>
    intro hn
    have ⟨i, hi⟩ := exists_isLeast (List.mem_iff_getElem?.mpr hn)
    exact ⟨i, fun hp => not_repeatsAt_of_isLeast hi (h i hp), hi.1⟩

-- The conflicts in the order of the tables that repeat a name: one for each of them, with the first
-- table of its name, which is not reported itself. What is not reported has all the names, each
-- once, and the tables pass the check if each of them does and none is reported.
theorem namingConflicts_exact (tables : List Table) :
    (namingConflicts tables).Pairwise (·.duplicate < ·.duplicate) ∧
    (∀ i, i ∈ conflictPositions tables ↔ RepeatsAt (tables.map (·.name)) i) ∧
    (∀ c ∈ namingConflicts tables,
      c.Among (tables.map (·.name)) ∧ c.first ∉ conflictPositions tables) ∧
    ((withoutAt (conflictPositions tables) tables).map (·.name)).Nodup ∧
    (∀ name, name ∈ (withoutAt (conflictPositions tables) tables).map (·.name) ↔
      name ∈ tables.map (·.name)) ∧
    (checkNames tables = .ok () ↔
      (∀ t ∈ tables, t.checkNames = .ok ()) ∧ namingConflicts tables = []) := by
  refine ⟨pairwise_namingConflictsAfter [] tables, fun _ => mem_conflictPositions, ?sound, ?nodup,
    ?names, ?accepted⟩
  case sound =>
    intro c hc
    have ha := mem_namingConflicts.mp hc
    -- The first table of a name repeats none.
    exact ⟨ha, fun hf => not_repeatsAt_of_isLeast ha.first (mem_conflictPositions.mp hf)⟩
  case nodup =>
    rw [map_withoutAt]
    exact nodup_withoutAt fun _ => mem_conflictPositions.mpr
  case names =>
    intro name
    rw [map_withoutAt]
    exact mem_withoutAt_iff_mem fun _ => mem_conflictPositions.mp
  case accepted =>
    simp only [checkNames_eq_ok, Table.checkNames_eq_ok, namingConflicts_eq_nil]

example :
    namingConflicts (["a", "b", "a", "c", "b", "a"].map fun name => { name }) =
      [⟨"a", 0, 2⟩, ⟨"b", 1, 4⟩, ⟨"a", 0, 5⟩] := by decide

end Relational
