import Relational.Proofs.Plan.Addition
import Relational.Proofs.Schema.EditRun
import Relational.Proofs.Sql.ConstraintNames

namespace Relational

open Sql

structure Table.Definable (d : Dialect) (t : Table) : Prop where
  name    : Text.isBlankText t.name = false
  columns : t.columns ≠ []
  types   : ∀ c ∈ t.columns, (d.nativeType? c.type).isSome

namespace Sql

variable {d : Dialect} {t : Table}

theorem exists_defineColumn_iff {c : Column} :
    (∃ column, defineColumn d t c = .ok column) ↔ (d.nativeType? c.type).isSome := by
  unfold defineColumn
  cases d.nativeType? c.type <;> simp

theorem exists_tableColumns_iff :
    (∃ columns, tableColumns d t = .ok columns) ↔ t.Definable d := by
  unfold tableColumns
  constructor
  · intro h
    split at h
    case isTrue => simp at h
    case isFalse hb =>
      split at h
      case isTrue => simp at h
      case isFalse hc =>
        refine ⟨by simpa using hb, by simpa using hc, fun c hm => ?_⟩
        exact exists_defineColumn_iff.mp (exists_mapM_ok_iff.mp h c hm)
  · intro h
    rw [if_neg (by simp [h.name]), if_neg (by simp [h.columns])]
    exact exists_mapM_ok_iff.mpr fun c hm => exists_defineColumn_iff.mpr (h.types c hm)

end Sql

namespace Plan

variable {d : Dialect} {p p' : Plan} {t : Table} {before after : List Creation} {script : Script}

end Plan

namespace Staff

def added : Table where
  name := "person_person_3"
  columns := [{ name := "id", type := "INT", primaryKey := true }]

theorem exists_text : ∃ text, schema.generate .oracle = .ok text :=
  ⟨_, rfl⟩

end Staff

end Relational
