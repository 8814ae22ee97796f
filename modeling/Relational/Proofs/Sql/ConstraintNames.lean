import Mathlib.Data.List.ReduceOption
import Relational.Proofs.Sql.Generation
import Relational.Proofs.Text.FreeName

namespace Relational

open Text

def ForeignKey.constraintBase (k : ForeignKey) : String :=
  "fk_" ++ k.table ++ "_" ++ k.referencedTable

def Table.namedKey? (d : Dialect) (t : Table) : Option Sql.PrimaryKey :=
  t.declaredKey?.map fun k =>
    { k with constraint := if d.namesConstraints then some ("pk_" ++ t.name) else none }

namespace Sql

def TableDefinition.names (t : TableDefinition) : List String :=
  t.constraints.reduceOption

def Statement.names (st : Statement) : List String :=
  st.constraints.reduceOption

variable {d : Dialect} {used used' used'' : UsedNames}

structure Claimed (used : UsedNames) (names : List String) (used' : UsedNames) : Prop where
  eq    : used' = names.reverse ++ used
  nodup : used.Nodup → used'.Nodup

namespace Claimed

theorem nil : Claimed used [] used :=
  ⟨rfl, id⟩

theorem append {names names' : List String} (h : Claimed used names used')
    (h' : Claimed used' names' used'') : Claimed used (names ++ names') used'' := by
  refine ⟨?eq, h'.nodup ∘ h.nodup⟩
  case eq => rw [h'.eq, h.eq, List.reverse_append, List.append_assoc]

end Claimed

section

variable {base name : String} {k : ForeignKey} {c : Creation}

theorem leastFree_nameConstraint (h : (nameConstraint d used base).1 = some name) :
    LeastFree id used base name := by
  unfold nameConstraint at h
  split at h
  case isTrue =>
    cases h
    exact leastFree_freeName_id used base
  case isFalse => cases h

theorem nameConstraint_snd :
    (nameConstraint d used base).2 = (nameConstraint d used base).1.toList ++ used := by
  unfold nameConstraint
  split <;> rfl

theorem claimed_nameConstraint (d : Dialect) (used : UsedNames) (base : String) :
    Claimed used [(nameConstraint d used base).1].reduceOption (nameConstraint d used base).2 := by
  rw [nameConstraint_snd]
  cases hn : (nameConstraint d used base).1
  case none => exact .nil
  case some name =>
    have hf := (leastFree_nameConstraint hn).key_not_mem
    exact ⟨rfl, fun hn => List.nodup_cons.mpr ⟨hf, hn⟩⟩

theorem claimed_definePrimaryKey (d : Dialect) (used : UsedNames) (t : Table) :
    Claimed used ((definePrimaryKey d used t).1.toList.map (·.constraint)).reduceOption
      (definePrimaryKey d used t).2 := by
  unfold definePrimaryKey
  split
  case h_1 => exact .nil
  case h_2 => exact claimed_nameConstraint ..

theorem claimed_defineReferences (d : Dialect) (used : UsedNames) (keys : List ForeignKey) :
    Claimed used ((defineReferences d used keys).1.map (·.constraint)).reduceOption
      (defineReferences d used keys).2 := by
  induction keys generalizing used
  case nil => exact .nil
  case cons k keys hi =>
    have h := (claimed_nameConstraint d used k.constraintBase).append (hi _)
    rwa [← List.reduceOption_append] at h

end

def tableColumns (d : Dialect) (t : Table) : Except ScriptError (List ColumnDefinition) :=
  if isBlankText t.name then .error .emptyTableName
  else if t.columns.isEmpty then .error (.noColumns t.name)
  else t.columns.mapM (defineColumn d t)

def definition (d : Dialect) (used : UsedNames) (c : Creation) (columns : List ColumnDefinition) :
    TableDefinition × UsedNames :=
  let (primaryKey, used) := definePrimaryKey d used c.table
  let (references, used) := defineReferences d used c.keys
  ({ name := c.table.name, columns, primaryKey, references }, used)

theorem defineTable_eq (c : Creation) :
    defineTable d used c = (tableColumns d c.table).map (definition d used c) := by
  unfold defineTable tableColumns
  split
  case isTrue => rfl
  case isFalse =>
    split
    case isTrue => rfl
    case isFalse => cases c.table.columns.mapM (defineColumn d c.table) <;> rfl

theorem defineTables_cons {c : Creation} {cs : List Creation} {ts : List TableDefinition} :
    defineTables d used (c :: cs) = .ok (ts, used') ↔
      ∃ columns rest, tableColumns d c.table = .ok columns ∧
        defineTables d (definition d used c columns).2 cs = .ok (rest, used') ∧
        (definition d used c columns).1 :: rest = ts := by
  rw [defineTables, defineTable_eq, bind_exceptMap, bind_eq_ok]
  constructor
  · intro ⟨columns, hc, h⟩
    have ⟨⟨rest, used₁⟩, hr, h⟩ := bind_eq_ok.mp h
    cases h
    exact ⟨columns, rest, hc, hr, rfl⟩
  · rintro ⟨columns, rest, hc, hr, rfl⟩
    exact ⟨columns, hc, bind_eq_ok.mpr ⟨(rest, used'), hr, rfl⟩⟩

theorem claimed_definition (d : Dialect) (used : UsedNames) (c : Creation)
    (columns : List ColumnDefinition) :
    Claimed used (definition d used c columns).1.names (definition d used c columns).2 := by
  have h := (claimed_definePrimaryKey d used c.table).append (claimed_defineReferences d _ c.keys)
  rwa [← List.reduceOption_append] at h

theorem claimed_defineTables {cs : List Creation} {ts : List TableDefinition}
    (h : defineTables d used cs = .ok (ts, used')) :
    Claimed used (ts.flatMap (·.names)) used' := by
  induction cs generalizing used ts
  case nil =>
    cases h
    exact .nil
  case cons c cs hi =>
    have ⟨columns, rest, _, hr, he⟩ := defineTables_cons.mp h
    exact he ▸ (claimed_definition d used c columns).append (hi hr)

section

variable {name : String} {tables : List String} {k : ForeignKey} {c : Creation}

def ForReference (name : String) : Prop :=
  "fk_".toList <+: name.toList

theorem forReference_of_candidate (h : Candidate k.constraintBase name) : ForReference name := by
  refine List.IsPrefix.trans ?_ h.isPrefix
  simp [ForeignKey.constraintBase]

theorem not_forReference (table : String) : ¬ForReference ("pk_" ++ table) := by
  simp [ForReference]

-- Two states of the names in use that make no difference to references, nor to the primary keys of
-- those tables.
structure Alike (tables : List String) (used used' : UsedNames) : Prop where
  references : ∀ name, ForReference name → (name ∈ used ↔ name ∈ used')
  left       : ∀ table ∈ tables, "pk_" ++ table ∉ used
  right      : ∀ table ∈ tables, "pk_" ++ table ∉ used'

theorem eq_of_namedKey? {t : Table} {key : PrimaryKey} (hk : t.namedKey? d = some key)
    (hc : key.constraint = some name) : name = "pk_" ++ t.name := by
  have ⟨_, _, hk⟩ := Option.map_eq_some_iff.mp hk
  subst hk
  split at hc <;> cases hc
  rfl

theorem definePrimaryKey_eq {t : Table} (h : "pk_" ++ t.name ∉ used) :
    definePrimaryKey d used t =
      (t.namedKey? d, ((t.namedKey? d).bind (·.constraint)).toList ++ used) := by
  have hf : freeName id used ("pk_" ++ t.name) = "pk_" ++ t.name := if_neg h
  unfold definePrimaryKey nameConstraint Table.namedKey? Table.declaredKey? Table.primaryKey
  cases t.columns.filter (·.primaryKey)
  case nil => rfl
  case cons => cases hd : d.namesConstraints <;> simp [hf]

theorem ne_of_forReference (hf : ForReference name) {table : String} : name ≠ "pk_" ++ table :=
  fun he => not_forReference table (he ▸ hf)

theorem primary_ne {table other : String} (hn : table ∉ tables) (ho : other ∈ tables) :
    "pk_" ++ other ≠ "pk_" ++ table :=
  fun he => hn ((String.append_right_inj _).mp he ▸ ho)

theorem mem_definePrimaryKey {t : Table} (hf : "pk_" ++ t.name ∉ used)
    (hne : name ≠ "pk_" ++ t.name) : name ∈ (definePrimaryKey d used t).2 ↔ name ∈ used := by
  rw [definePrimaryKey_eq hf, List.mem_append, Option.mem_toList]
  refine or_iff_right fun hm => hne ?_
  have ⟨_, hk, hc⟩ := Option.bind_eq_some_iff.mp hm
  exact eq_of_namedKey? hk hc

namespace Alike

theorem empty : Alike tables [] [] :=
  ⟨fun _ _ => .rfl, fun _ _ => List.not_mem_nil, fun _ _ => List.not_mem_nil⟩

theorem reference (h : Alike tables used used') (hf : ForReference name) :
    Alike tables (name :: used) (name :: used') := by
  have hne (table : String) : "pk_" ++ table ≠ name := (ne_of_forReference hf).symm
  constructor
  case references =>
    intro other hr
    simp only [List.mem_cons, h.references other hr]
  case left  => exact fun table ht => List.not_mem_cons_of_ne_of_not_mem (hne _) (h.left table ht)
  case right => exact fun table ht => List.not_mem_cons_of_ne_of_not_mem (hne _) (h.right table ht)

theorem nameConstraint (h : Alike tables used used') (k : ForeignKey) :
    (nameConstraint d used k.constraintBase).1 = (nameConstraint d used' k.constraintBase).1 ∧
      Alike tables (nameConstraint d used k.constraintBase).2
        (nameConstraint d used' k.constraintBase).2 := by
  have he : (Sql.nameConstraint d used k.constraintBase).1 =
      (Sql.nameConstraint d used' k.constraintBase).1 := by
    unfold Sql.nameConstraint
    split
    case isTrue =>
      -- All candidates are names for references, so the first free one is the same in both.
      have hl := leastFree_freeName_id used k.constraintBase
      have hl := hl.congr fun c hc => h.references c (forReference_of_candidate hc)
      exact congrArg some (hl.unique (leastFree_freeName_id used' k.constraintBase))
    case isFalse => rfl
  refine ⟨he, ?_⟩
  rw [nameConstraint_snd, nameConstraint_snd, ← he]
  cases hn : (Sql.nameConstraint d used k.constraintBase).1
  case none => exact h
  case some name =>
    exact h.reference (forReference_of_candidate (leastFree_nameConstraint hn).candidate)

theorem defineReference (h : Alike tables used used') (k : ForeignKey) :
    (defineReference d used k).1 = (defineReference d used' k).1 ∧
      Alike tables (defineReference d used k).2 (defineReference d used' k).2 := by
  have ⟨hn, h⟩ := h.nameConstraint (d := d) k
  exact ⟨congrArg (fun constraint => { k.declared with constraint }) hn, h⟩

theorem defineReferences (h : Alike tables used used') (keys : List ForeignKey) :
    (defineReferences d used keys).1 = (defineReferences d used' keys).1 ∧
      Alike tables (defineReferences d used keys).2 (defineReferences d used' keys).2 := by
  induction keys generalizing used used'
  case nil => exact ⟨rfl, h⟩
  case cons k keys hi =>
    have ⟨hk, h⟩ := h.defineReference (d := d) k
    have ⟨hks, h⟩ := hi h
    exact ⟨congrArg₂ List.cons hk hks, h⟩

theorem definePrimaryKey {t : Table} (h : Alike (t.name :: tables) used used')
    (hn : t.name ∉ tables) :
    (definePrimaryKey d used t).1 = t.namedKey? d ∧
      (definePrimaryKey d used' t).1 = t.namedKey? d ∧
      Alike tables (definePrimaryKey d used t).2 (definePrimaryKey d used' t).2 := by
  have ⟨hl, hls⟩ := List.forall_mem_cons.mp h.left
  have ⟨hr, hrs⟩ := List.forall_mem_cons.mp h.right
  refine ⟨by rw [definePrimaryKey_eq hl], by rw [definePrimaryKey_eq hr], ?_⟩
  constructor
  case references =>
    intro name hf
    rw [mem_definePrimaryKey hl (ne_of_forReference hf), h.references name hf,
      mem_definePrimaryKey hr (ne_of_forReference hf)]
  case left =>
    exact fun other ho => mt (mem_definePrimaryKey hl (primary_ne hn ho)).mp (hls other ho)
  case right =>
    exact fun other ho => mt (mem_definePrimaryKey hr (primary_ne hn ho)).mp (hrs other ho)

theorem definition (h : Alike (c.table.name :: tables) used used') (hn : c.table.name ∉ tables)
    (columns : List ColumnDefinition) :
    (definition d used c columns).1 = (definition d used' c columns).1 ∧
      (definition d used c columns).1.primaryKey = c.table.namedKey? d ∧
      Alike tables (definition d used c columns).2 (definition d used' c columns).2 := by
  have ⟨hk, hk', h⟩ := h.definePrimaryKey (d := d) hn
  have ⟨hr, h⟩ := h.defineReferences (d := d) c.keys
  refine ⟨?_, hk, h⟩
  simp only [Sql.definition, hk, hk', hr]

theorem defineTables {cs : List Creation} {ts : List TableDefinition} {used₁ : UsedNames}
    (ha : Alike (cs.map (·.table.name) ++ tables) used used')
    (hn : (cs.map (·.table.name) ++ tables).Nodup)
    (h : defineTables d used cs = .ok (ts, used₁)) :
    ∃ used₁', defineTables d used' cs = .ok (ts, used₁') ∧ Alike tables used₁ used₁' := by
  induction cs generalizing used used' ts
  case nil =>
    cases h
    exact ⟨used', rfl, ha⟩
  case cons c cs hi =>
    have ⟨hc, hn⟩ := List.nodup_cons.mp hn
    have ⟨columns, rest, hcs, hr, he⟩ := defineTables_cons.mp h
    have ⟨hd, _, ha⟩ := ha.definition (d := d) hc columns
    have ⟨used₁', hr', ha⟩ := hi ha hn hr
    exact ⟨used₁', defineTables_cons.mpr ⟨columns, rest, hcs, hr', hd ▸ he⟩, ha⟩

end Alike

-- Every constraint of a definition has the name that it should have, or that with a number.
structure NamedFor (d : Dialect) (c : Creation) (t : TableDefinition) : Prop where
  primaryKey : t.primaryKey = c.table.namedKey? d
  references : List.Forall₂ (fun k r => ∀ name ∈ r.constraint, Candidate k.constraintBase name)
    c.keys t.references

theorem candidates_defineReferences (d : Dialect) (used : UsedNames) (keys : List ForeignKey) :
    List.Forall₂ (fun k r => ∀ name ∈ r.constraint, Candidate k.constraintBase name) keys
      (defineReferences d used keys).1 := by
  induction keys generalizing used
  case nil => exact .nil
  case cons k keys hi =>
    exact .cons (fun name hn => (leastFree_nameConstraint hn).candidate) (hi _)

theorem namedFor_defineTables {cs : List Creation} {ts : List TableDefinition}
    (ha : Alike (cs.map (·.table.name)) used used) (hn : (cs.map (·.table.name)).Nodup)
    (h : defineTables d used cs = .ok (ts, used')) : List.Forall₂ (NamedFor d) cs ts := by
  induction cs generalizing used ts
  case nil =>
    cases h
    exact .nil
  case cons c cs hi =>
    have ⟨hc, hn⟩ := List.nodup_cons.mp hn
    have ⟨columns, rest, _, hr, he⟩ := defineTables_cons.mp h
    have ⟨_, hk, ha⟩ := ha.definition (d := d) hc columns
    exact he ▸ .cons ⟨hk, candidates_defineReferences ..⟩ (hi ha hn hr)

end

def Statement.references : Statement → List Reference
  | create t => t.references
  | add _ r  => [r]
  | commit   => []

theorem flatMap_names_additions (as : List (String × Reference)) :
    (as.map fun (table, r) => Statement.add table r).flatMap (·.names) =
      ((as.map (·.2)).map (·.constraint)).reduceOption := by
  induction as
  case nil => rfl
  case cons a as hi =>
    have h := List.reduceOption_append [a.2.constraint] ((as.map (·.2)).map (·.constraint))
    exact (congrArg _ hi).trans h.symm

theorem Script.flatMap_names (script : Script) (d : Dialect) :
    (script.statements d).flatMap (·.names) =
      script.tables.flatMap (·.names) ++
        ((script.additions.map (·.2)).map (·.constraint)).reduceOption := by
  have hc : (if d.footer?.isSome then [Statement.commit] else []).flatMap (·.names) = [] := by
    split <;> rfl
  rw [Script.statements, List.flatMap_append, List.flatMap_append, hc, List.append_nil,
    flatMap_names_additions, List.flatMap_map]
  rfl

def referenceNames (statements : List Statement) : List String :=
  ((statements.flatMap (·.references)).map (·.constraint)).reduceOption

theorem mem_referenceNames {statements : List Statement} {name : String} :
    name ∈ referenceNames statements ↔
      ∃ st ∈ statements, ∃ r ∈ st.references, r.constraint = some name := by
  simp only [referenceNames, List.reduceOption_mem_iff, List.mem_map, List.mem_flatMap]
  constructor
  · rintro ⟨r, ⟨st, hst, hr⟩, he⟩
    exact ⟨st, hst, r, hr, he⟩
  · rintro ⟨st, hst, r, hr, he⟩
    exact ⟨r, ⟨st, hst, hr⟩, he⟩

end Sql

namespace Plan

open Sql

variable {d : Dialect} {p : Plan} {script : Script}

theorem script_eq_ok :
    p.script d = .ok script ↔
      ∃ used, defineTables d [] p.creations = .ok (script.tables, used) ∧
        (p.deferred.map (·.table)).zip (defineReferences d used p.deferred).1 =
          script.additions := by
  rw [Plan.script, bind_eq_ok]
  constructor
  · intro ⟨⟨tables, used⟩, ht, h⟩
    cases h
    exact ⟨used, ht, rfl⟩
  · intro ⟨used, ht, ha⟩
    refine ⟨(script.tables, used), ht, ?_⟩
    exact congrArg (fun additions => Except.ok (Script.mk script.tables additions)) ha

theorem map_snd_additions (used : UsedNames) :
    ((p.deferred.map (·.table)).zip (defineReferences d used p.deferred).1).map (·.2) =
      (defineReferences d used p.deferred).1 := by
  have hl := (candidates_defineReferences d used p.deferred).length_eq
  exact List.map_snd_zip (by simp [hl])

theorem nodup_names (h : p.script d = .ok script) :
    ((script.statements d).flatMap (·.names)).Nodup := by
  have ⟨used, ht, ha⟩ := script_eq_ok.mp h
  have hc := (claimed_defineTables ht).append (claimed_defineReferences d used p.deferred)
  have hn := List.nodup_append.mp (hc.eq ▸ hc.nodup .nil)
  rw [script.flatMap_names d, ← ha, map_snd_additions]
  exact List.nodup_reverse.mp hn.left

theorem mem_names (h : p.script d = .ok script) (hn : (p.creations.map (·.table.name)).Nodup)
    {name : String} (hm : name ∈ (script.statements d).flatMap (·.names)) :
    (∃ c ∈ p.creations, name = "pk_" ++ c.table.name) ∨
      name ∈ referenceNames (script.statements d) ∧
        ∃ k ∈ p.keys, Candidate k.constraintBase name := by
  obtain ⟨used, ht, ha⟩ := script_eq_ok.mp h
  have hf := namedFor_defineTables .empty hn ht
  rw [script.flatMap_names d, List.mem_append] at hm
  cases hm
  case inl hm =>
    obtain ⟨t, ht, hm⟩ := List.mem_flatMap.mp hm
    obtain ⟨c, hc, hf⟩ := exists_mem_of_forall₂ hf t ht
    cases List.mem_append.mp (List.reduceOption_mem_iff.mp hm)
    case inl hm =>
      obtain ⟨key, hk, he⟩ := List.mem_map.mp hm
      exact .inl ⟨c, hc, eq_of_namedKey? (hf.primaryKey ▸ Option.mem_toList.mp hk) he⟩
    case inr hm =>
      obtain ⟨r, hr, he⟩ := List.mem_map.mp hm
      obtain ⟨k, hk, hf⟩ := exists_mem_of_forall₂ hf.references r hr
      have hst : .create t ∈ script.statements d := by simp [Script.statements, ht]
      refine .inr ⟨mem_referenceNames.mpr ⟨_, hst, r, hr, he⟩, k, ?_, hf name he⟩
      exact List.mem_append_left _ (List.mem_flatMap.mpr ⟨c, hc, hk⟩)
  case inr hm =>
    obtain ⟨r, hr, he⟩ := List.mem_map.mp (List.reduceOption_mem_iff.mp hm)
    obtain ⟨a, hm, ha₂⟩ := List.mem_map.mp hr
    rw [← ha, map_snd_additions] at hr
    obtain ⟨k, hk, hf⟩ := exists_mem_of_forall₂ (candidates_defineReferences d used _) r hr
    have hst : .add a.1 r ∈ script.statements d := by
      simp only [Script.statements, List.mem_append, List.mem_map]
      exact .inl (.inr ⟨a, hm, ha₂ ▸ rfl⟩)
    refine .inr ⟨mem_referenceNames.mpr ⟨_, hst, r, List.mem_singleton_self r, he⟩, k, ?_, ?_⟩
    · exact List.mem_append_right _ hk
    · exact hf name he

end Plan
end Relational
