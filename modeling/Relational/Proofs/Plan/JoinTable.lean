import Relational.Proofs.Plan.Step
import Relational.Proofs.Text.FreeName

namespace Relational

def lowerNames (tables : List Table) : List String :=
  tables.map fun t => Text.lowercase t.name

theorem mem_lowerNames {tables : List Table} {t : Table} (h : t ∈ tables) :
    Text.lowercase t.name ∈ lowerNames tables :=
  List.mem_map.mpr ⟨t, h, rfl⟩

section

variable {taken : List String} {left right : Endpoint}

theorem joinColumnNames_ne : (joinColumnNames left right).1 ≠ (joinColumnNames left right).2 := by
  unfold joinColumnNames
  extract_lets l r l' r'
  split
  case isTrue h => exact h
  case isFalse =>
    show l' ≠ if l' = r' then r' ++ "_2" else r'
    split
    case isFalse h => exact h
    case isTrue h =>
      intro he
      have := congrArg String.length (h ▸ he)
      simp [String.length_append] at this

theorem leastFree_joinTable_name :
    Text.LeastFree Text.lowercase taken (left.table.name ++ "_" ++ right.table.name)
      (joinTable taken left right).name :=
  Text.leastFree_freeName_lowercase taken _

def joinTableKeys (place : Nat) (join : Table) (left right : Endpoint) : List PlacedKey :=
  (join.columns.zip [left, right]).map fun (column, target) =>
    Endpoint.keyTo { place, table := join, column } target

theorem keys_joinTableKeys {tables : List Table} {e : Declaration} {place : Nat} {join : Table}
    (hl : left.At tables e.left) (hr : right.At tables e.right) :
    (joinTableKeys place join left right).map (·.key) = e.joinKeys join := by
  have hl := hl.names_eq
  have hr := hr.names_eq
  simp only [joinTableKeys, Declaration.joinKeys, ← hl, ← hr, Endpoint.names]
  rcases join.columns with _ | ⟨c, _ | ⟨c', cs⟩⟩ <;> simp [Endpoint.keyTo]

end

-- Join tables made for declarations, one after the other, each under a name that is still free.
inductive Synthesized (tables : List Table) : List Declaration → List Table → Prop
  | nil : Synthesized tables [] []
  | snoc {es : List Declaration} {joins : List Table} {e : Declaration} {left right : Endpoint} :
    Synthesized tables es joins → left.At tables e.left → right.At tables e.right →
    Synthesized tables (es ++ [e])
      (joins ++ [joinTable (lowerNames (tables ++ joins)) left right])

namespace Synthesized

variable {tables joins : List Table} {es : List Declaration}

theorem length_eq (h : Synthesized tables es joins) : es.length = joins.length := by
  induction h
  case nil           => rfl
  case snoc _ _ _ ih => simp [ih]

theorem map_fst_zip (h : Synthesized tables es joins) : (es.zip joins).map (·.1) = es :=
  List.map_fst_zip (le_of_eq h.length_eq)

theorem nodup_lowerNames (h : Synthesized tables es joins) :
    (lowerNames joins).Nodup ∧ (lowerNames tables).Disjoint (lowerNames joins) := by
  induction h
  case nil => simp [lowerNames]
  case snoc es joins _ left right _ _ _ ih =>
    have hf : Text.lowercase (joinTable (lowerNames (tables ++ joins)) left right).name ∉
        lowerNames (tables ++ joins) :=
      leastFree_joinTable_name.key_not_mem
    simp only [lowerNames, List.map_append, List.mem_append, not_or, List.map_cons,
      List.map_nil, List.disjoint_append_right, List.disjoint_singleton] at hf ih ⊢
    refine ⟨ih.left.append (List.nodup_singleton _) ?_, ih.right, hf.left⟩
    simpa using hf.right

theorem getElem? (h : Synthesized tables es joins) {i : Nat} {e : Declaration}
    (hi : es[i]? = some e) :
    ∃ left right : Endpoint, left.At tables e.left ∧ right.At tables e.right ∧
      joins[i]? = some (joinTable (lowerNames (tables ++ joins.take i)) left right) := by
  induction h generalizing i
  case nil => contradiction
  case snoc es joins f left right hs hl hr ih =>
    have hlen := hs.length_eq
    rcases Nat.lt_trichotomy i es.length with hlt | heq | hgt
    · rw [List.getElem?_append_left hlt] at hi
      have hlt := hlen ▸ hlt
      rw [List.getElem?_append_left hlt, List.take_append_of_le_length (Nat.le_of_lt hlt)]
      exact ih hi
    · rw [heq, List.getElem?_concat_length, Option.some.injEq] at hi
      subst hi
      refine ⟨left, right, hl, hr, ?_⟩
      rw [heq, hlen, List.getElem?_concat_length, List.take_left]
    · rw [List.getElem?_eq_none (by simp; omega)] at hi
      contradiction

theorem getElem?_of_mem_zip (h : Synthesized tables es joins) {e : Declaration} {join : Table}
    (hm : (e, join) ∈ es.zip joins) :
    ∃ (i : Nat) (left right : Endpoint), joins[i]? = some join ∧
      left.At tables e.left ∧ right.At tables e.right ∧
      join = joinTable (lowerNames (tables ++ joins.take i)) left right := by
  have ⟨i, hi⟩ := List.mem_iff_getElem?.mp hm
  have ⟨he, hj⟩ := List.getElem?_zip_eq_some.mp hi
  have ⟨left, right, hl, hr, hj'⟩ := h.getElem? he
  exact ⟨i, left, right, hj, hl, hr, Option.some.inj (hj.symm.trans hj')⟩

theorem exists_columns (h : Synthesized tables es joins) {e : Declaration} {join : Table}
    (hm : (e, join) ∈ es.zip joins) : ∃ l r, join.columns = [l, r] := by
  have ⟨_, _, _, _, _, _, hj⟩ := h.getElem?_of_mem_zip hm
  exact hj ▸ ⟨_, _, rfl⟩

end Synthesized
end Relational
