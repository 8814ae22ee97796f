import Relational.Proofs.Sql.Failure

namespace Relational

open Sql

-- One dialect has a spelling for each type that another one has.
def Dialect.Covers (d d' : Dialect) : Prop :=
  ∀ type, (d'.nativeType? type).isSome → (d.nativeType? type).isSome

namespace Dialect

variable {d d' : Dialect} {type : String}

theorem isSome_oracleType?_iff {t : LogicalType} : (oracleType? t).isSome ↔ t.kind ≠ .time := by
  unfold oracleType?
  cases t.kind <;> simp

theorem isSome_nativeType?_iff :
    (d.nativeType? type).isSome ↔
      d = .generic ∨ ∃ t, LogicalType.parse type = some t ∧ (d = .oracle → t.kind ≠ .time) := by
  cases d
  case generic => simp [nativeType?]
  case oracle =>
    simp only [nativeType?, Option.isSome_bind, Option.any_eq_true, isSome_oracleType?_iff,
      reduceCtorEq, false_or, true_implies]
  case postgres => simp [nativeType?, Option.isSome_iff_exists]
  case mysql    => simp [nativeType?, Option.isSome_iff_exists]

theorem covers_generic : generic.Covers d :=
  fun _ _ => isSome_nativeType?_iff.mpr (.inl rfl)

theorem covers_of_ne (hd : d ≠ .oracle) (hd' : d' ≠ .generic) : d.Covers d' := by
  intro type h
  have ⟨t, ht, _⟩ := (isSome_nativeType?_iff.mp h).resolve_left hd'
  exact isSome_nativeType?_iff.mpr (.inr ⟨t, ht, fun h => absurd h hd⟩)

end Dialect

namespace Table

variable {d d' : Dialect} {t : Table}

theorem Definable.of_covers (hd : d.Covers d') (h : t.Definable d') : t.Definable d :=
  ⟨h.name, h.columns, fun c hc => hd c.type (h.types c hc)⟩

theorem Definable.exists_unmapped (h : t.Definable d) {error : ScriptError}
    (hf : t.fault? d' = some error) :
    ∃ c ∈ t.columns, ¬(d'.nativeType? c.type).isSome ∧
      error = .unmappedType t.name c.name c.type d' := by
  simp only [Table.fault?, h.name, h.columns, Bool.false_eq_true, if_false] at hf
  have ⟨c, hc, hf⟩ := List.exists_of_findSome?_eq_some hf
  unfold Column.fault? at hf
  split at hf
  case isTrue => contradiction
  case isFalse hnone => exact ⟨c, hc, hnone, (Option.some.inj hf).symm⟩

end Table

theorem Schema.exists_generate_of_covers {s : Schema} {d d' : Dialect} (hd : d.Covers d')
    (h : ∃ text, s.generate d' = .ok text) : ∃ text, s.generate d = .ok text := by
  have ⟨p, hp, ht⟩ := exists_generate_iff.mp h
  exact exists_generate_iff.mpr ⟨p, hp, fun t hm => (ht t hm).of_covers hd⟩

-- Schemas with a script in Oracle have one in PostgreSQL and MySQL, which have scripts for the same
-- schemas, and those have one in portable SQL. If Oracle alone has none, a column is for times.
theorem Schema.generate_covers {s : Schema} (hn : (s.tables.map (·.name)).Nodup) :
    ((∃ text, s.generate .oracle = .ok text) → ∃ text, s.generate .postgres = .ok text) ∧
    ((∃ text, s.generate .postgres = .ok text) ↔ ∃ text, s.generate .mysql = .ok text) ∧
    (((∃ text, s.generate .postgres = .ok text) ∨ ∃ text, s.generate .mysql = .ok text) →
      ∃ text, s.generate .generic = .ok text) ∧
    ((∃ text, s.generate .postgres = .ok text) → ∀ error, s.generate .oracle = .error error →
      ∃ t ∈ s.tables, ∃ c ∈ t.columns, ∃ type, LogicalType.parse c.type = some type ∧
        type.kind = .time ∧ error = .unmappedType t.name c.name c.type .oracle) := by
  refine ⟨?oracle, ⟨?mysql, ?postgres⟩, ?generic, ?times⟩
  case oracle   => exact exists_generate_of_covers (Dialect.covers_of_ne (by decide) (by decide))
  case mysql    => exact exists_generate_of_covers (Dialect.covers_of_ne (by decide) (by decide))
  case postgres => exact exists_generate_of_covers (Dialect.covers_of_ne (by decide) (by decide))
  case generic =>
    rintro (h | h)
    · exact exists_generate_of_covers Dialect.covers_generic h
    · exact exists_generate_of_covers Dialect.covers_generic h
  case times =>
    intro h error herror
    -- What Oracle says is about the first table that it cannot define, and PostgreSQL can.
    have ⟨p, hp, hdef⟩ := exists_generate_iff.mp h
    have ⟨_, c, _, _, _, ht, _, hf⟩ := (generate_eq_error_iff_of_plan hn hp).mp herror
    have hc := hdef c.table (List.mem_append_left _ ht)
    have ⟨column, hm, hnone, he⟩ := hc.exists_unmapped hf
    have ⟨type, htype, _⟩ :=
      (Dialect.isSome_nativeType?_iff.mp (hc.types column hm)).resolve_left (by decide)
    refine ⟨c.table, ht, column, hm, type, htype, ?_, he⟩
    by_contra hk
    exact hnone (Dialect.isSome_nativeType?_iff.mpr (.inr ⟨type, htype, fun _ => hk⟩))

theorem generate_covers_staff :
    (Staff.timed.tables.map (·.name)).Nodup ∧
    (∃ text, Staff.timed.generate .mysql = .ok text) ∧
    ∃ error, Staff.timed.generate .oracle = .error error ∧
      ∃ t ∈ Staff.timed.tables, ∃ c ∈ t.columns,
        error = .unmappedType t.name c.name c.type .oracle := by
  have hn : (Staff.timed.tables.map (·.name)).Nodup := by decide
  have h := Schema.generate_covers hn
  have hp : ∃ text, Staff.timed.generate .postgres = .ok text := ⟨_, rfl⟩
  have ⟨t, ht, c, hc, _, _, _, he⟩ := h.right.right.right hp _ rfl
  exact ⟨hn, h.right.left.mp hp, _, rfl, t, ht, c, hc, he⟩

end Relational
