import Relational.Proofs.Plan.Correspondence
import Relational.Proofs.Plan.References
import Relational.Proofs.Plan.TableNames
import Relational.Proofs.Schema.EditRun

namespace Relational

open List (Forall₂)

def SamePlace (tables tables' : List Table) (t t' : Table) : Prop :=
  ∃ place : Nat, tables[place]? = some t ∧ tables'[place]? = some t'

def SameNamed (tables tables' : List Table) (name name' : String) : Prop :=
  ∃ place : Nat, Named tables place name ∧ Named tables' place name'

theorem SamePlace.sameNamed {tables tables' : List Table} {t t' : Table}
    (h : SamePlace tables tables' t t') : SameNamed tables tables' t.name t'.name :=
  have ⟨place, ht, ht'⟩ := h
  ⟨place, by rw [Named, ht]; rfl, by rw [Named, ht']; rfl⟩

structure ForeignKey.Same (s : Schema) (tables tables' : List Table) (k k' : ForeignKey) :
    Prop where
  table            : SameNamed tables tables' k.table k'.table
  column           : k.table ∈ s.tables.map (·.name) → k'.column = k.column
  referencedTable  : SameNamed tables tables' k.referencedTable k'.referencedTable
  referencedColumn : k'.referencedColumn = k.referencedColumn

-- Join tables that differ in names only, and in those of columns only if the columns that they
-- reference have one name.
structure SameJoin (e : Declaration) (join join' : Table) : Prop where
  table   : join' = { join with name := join'.name, columns := join'.columns }
  columns : Forall₂ (fun c c' => c' = { c with name := c'.name }) join.columns join'.columns
  names   : e.left.2 ≠ e.right.2 → join'.columns = join.columns

-- Two plans that say the same about tables at the same places.
structure Plan.Same (s : Schema) (p : Plan) (s' : Schema) (p' : Plan) : Prop where
  length    : p'.synthesized.length = p.synthesized.length
  joins     : ∀ (i : Nat) e join join', s.joins[i]? = some e → p.synthesized[i]? = some join →
    p'.synthesized[i]? = some join' → SameJoin e join join'
  creations : Forall₂ (Creation.Matches (SamePlace (p.declared s) (p'.declared s'))
    (ForeignKey.Same s (p.declared s) (p'.declared s'))) p.creations p'.creations
  deferred  : Forall₂ (ForeignKey.Same s (p.declared s) (p'.declared s')) p.deferred p'.deferred
  cycles    : Forall₂ (Forall₂ (SameNamed (p.declared s) (p'.declared s'))) p.cycles p'.cycles

structure Plan.Renames (f : String → String) (s : Schema) (d : Demand) (p : Plan) (s' : Schema)
    (d' : Demand) (p' : Plan) : Prop where
  meets  : p.Meets s d
  meets' : p'.Meets s' d'
  tables : s'.tables = s.tables.map (·.mapTables f)
  nodup  : (s.tables.map (·.name)).Nodup
  inj    : ∀ a ∈ s.tables.map (·.name), ∀ b ∈ s.tables.map (·.name), f a = f b → a = b

inductive ForeignKey.Renamed (f : String → String) (s : Schema) (p : Plan) (s' : Schema)
    (p' : Plan) : ForeignKey → ForeignKey → Prop
  | direct {k} : k.table ∈ s.tables.map (·.name) → k.referencedTable ∈ s.tables.map (·.name) →
    Renamed f s p s' p' k
      { k with table := f k.table, referencedTable := f k.referencedTable }
  | join {i n : Nat} {m m' : Declaration × Table} {k k'} :
    (s.joins.zip p.synthesized)[i]? = some m → (s'.joins.zip p'.synthesized)[i]? = some m' →
    (m.1.joinKeys m.2)[n]? = some k → (m'.1.joinKeys m'.2)[n]? = some k' →
    Renamed f s p s' p' k k'

theorem Plan.getElem?_declared {s : Schema} {p : Plan} {i : Nat} {join : Table}
    (h : p.synthesized[i]? = some join) : (p.declared s)[s.tables.length + i]? = some join := by
  rw [declared, List.getElem?_append_right (Nat.le_add_right ..), Nat.add_sub_cancel_left, h]

namespace Plan.Meets

variable {s : Schema} {d : Demand} {p : Plan} {m n : Declaration × Table} {k : ForeignKey}

theorem nodup_joinKeys (h : p.Meets s d) (hm : m ∈ s.joins.zip p.synthesized) :
    (m.1.joinKeys m.2).Nodup := by
  have ⟨_, left, right, _, _, _, hj⟩ := h.synthesized_joins.getElem?_of_mem_zip hm
  rw [hj]
  simp [Declaration.joinKeys, joinTable, joinColumnNames_ne]

theorem joinKeys_inj (h : p.Meets s d) {i j a b : Nat}
    (hi : (s.joins.zip p.synthesized)[i]? = some m) (hj : (s.joins.zip p.synthesized)[j]? = some n)
    (ha : (m.1.joinKeys m.2)[a]? = some k) (hb : (n.1.joinKeys n.2)[b]? = some k) :
    i = j ∧ a = b := by
  have hm := List.mem_of_getElem? hi
  have hn := List.mem_of_getElem? hj
  have htable := Declaration.table_of_mem_joinKeys (List.mem_of_getElem? ha)
  rw [Declaration.table_of_mem_joinKeys (List.mem_of_getElem? hb)] at htable
  obtain rfl : n = m := h.eq_of_join_name_eq hn hm htable
  have nodup : (s.joins.zip p.synthesized).Nodup := .of_map _ h.nodup_made
  have hlt := (List.getElem?_eq_some_iff.mp hi).fst
  have hlta := (List.getElem?_eq_some_iff.mp ha).fst
  exact ⟨(List.getElem?_inj hlt nodup).mp (hi.trans hj.symm),
    (List.getElem?_inj hlta (h.nodup_joinKeys hm)).mp (ha.trans hb.symm)⟩

theorem name_not_mem_of_joinKeys (h : p.Meets s d) (hm : m ∈ s.joins.zip p.synthesized)
    (hk : k ∈ m.1.joinKeys m.2) : k.table ∉ s.tables.map (·.name) := by
  rw [Declaration.table_of_mem_joinKeys hk]
  intro hmem
  have ⟨t, ht, hname⟩ := List.mem_map.mp hmem
  exact h.name_ne_of_mem_synthesized ht (List.of_mem_zip hm).right hname

end Plan.Meets

namespace Plan.Renames

variable {f : String → String} {s s' : Schema} {d d' : Demand} {p p' : Plan} {e : Declaration}
variable {k k' l l' : ForeignKey}

theorem nodup' (h : Renames f s d p s' d' p') : (s'.tables.map (·.name)).Nodup := by
  rw [h.tables, names_mapTables]
  exact h.nodup.map_on h.inj

theorem declarations (h : Renames f s d p s' d' p') :
    s'.declarations = s.declarations.map (·.mapTables f) := by
  rw [Schema.declarations, h.tables, declarations_mapTables]
  rfl

theorem joins (h : Renames f s d p s' d' p') : s'.joins = s.joins.map (·.mapTables f) := by
  rw [Schema.joins, h.declarations]
  exact firstOfPairs_mapTables h.inj h.meets.accounts.resolves

theorem length_synthesized (h : Renames f s d p s' d' p') :
    p'.synthesized.length = p.synthesized.length := by
  rw [← h.meets'.synthesized_joins.length_eq, ← h.meets.synthesized_joins.length_eq, h.joins,
    List.length_map]

theorem renamed_inj (h : Renames f s d p s' d' p') (hk : ForeignKey.Renamed f s p s' p' k k')
    (hl : ForeignKey.Renamed f s p s' p' l l') : k = l ↔ k' = l' := by
  have mapped {name : String} (hm : name ∈ s.tables.map (·.name)) :
      f name ∈ s'.tables.map (·.name) := by
    rw [h.tables, names_mapTables]
    exact List.mem_map_of_mem hm
  cases hk <;> cases hl
  case direct.direct hk hk' hl hl' =>
    have eq_iff {a b : String} (ha : a ∈ s.tables.map (·.name)) (hb : b ∈ s.tables.map (·.name)) :
        f a = f b ↔ a = b := ⟨h.inj a ha b hb, congrArg f⟩
    rcases k with ⟨_, _, _, _⟩
    rcases l with ⟨_, _, _, _⟩
    simp only [ForeignKey.mk.injEq, eq_iff hk hl, eq_iff hk' hl']
  -- A join table has the name of no table of the schema, neither before nor afterwards.
  case direct.join hk _ _ _ _ _ hm hm' hl hl' =>
    have hn := h.meets.name_not_mem_of_joinKeys (List.mem_of_getElem? hm) (List.mem_of_getElem? hl)
    have hn' := h.meets'.name_not_mem_of_joinKeys (List.mem_of_getElem? hm')
      (List.mem_of_getElem? hl')
    exact iff_of_false (fun he => hn (he ▸ hk)) fun he => hn' (he ▸ mapped hk)
  case join.direct _ _ _ _ hm hm' hk hk' hl hl' =>
    have hn := h.meets.name_not_mem_of_joinKeys (List.mem_of_getElem? hm) (List.mem_of_getElem? hk)
    have hn' := h.meets'.name_not_mem_of_joinKeys (List.mem_of_getElem? hm')
      (List.mem_of_getElem? hk')
    exact iff_of_false (fun he => hn (he ▸ hl)) fun he => hn' (he ▸ mapped hl)
  case join.join i a m m' hm hm' hk hk' j b n n' hn hn' hl hl' =>
    constructor
    · rintro rfl
      obtain ⟨rfl, rfl⟩ := h.meets.joinKeys_inj hm hn hk hl
      obtain rfl := Option.some.inj (hm'.symm.trans hn')
      exact Option.some.inj (hk'.symm.trans hl')
    · rintro rfl
      obtain ⟨rfl, rfl⟩ := h.meets'.joinKeys_inj hm' hn' hk' hl'
      obtain rfl := Option.some.inj (hm.symm.trans hn)
      exact Option.some.inj (hk.symm.trans hl)

theorem exists_made (h : Renames f s d p s' d' p') (he : e ∈ s.declarations) (hn : e.NeedsJoin) :
    ∃ (i : Nat) (first : Declaration) (join join' : Table),
      (s.joins.zip p.synthesized)[i]? = some (first, join) ∧
      (s'.joins.zip p'.synthesized)[i]? = some (first.mapTables f, join') ∧
      first.pair = e.pair := by
  have ⟨first, join, hm, hp⟩ := h.meets.exists_made he hn
  have ⟨i, hi⟩ := List.mem_iff_getElem?.mp hm
  have ⟨hf, hj⟩ := List.getElem?_zip_eq_some.mp hi
  have hlt := (List.getElem?_eq_some_iff.mp hj).fst
  have hj' := List.getElem?_eq_getElem (h.length_synthesized ▸ hlt)
  refine ⟨i, first, join, _, hi, List.getElem?_zip_eq_some.mpr ⟨?_, hj'⟩, hp⟩
  rw [h.joins, List.getElem?_map, hf]
  rfl

theorem demanded (h : Renames f s d p s' d' p') (he : e ∈ s.declarations) :
    Forall₂ (ForeignKey.Renamed f s p s' p') (e.demanded (s.joins.zip p.synthesized))
      ((e.mapTables f).demanded (s'.joins.zip p'.synthesized)) := by
  have hr := h.meets.accounts.resolves e he
  by_cases hn : e.NeedsJoin
  case pos =>
    obtain ⟨i, first, join, join', hi, hi', hp⟩ := h.exists_made he hn
    have hfirst : first ∈ s.joins := (List.of_mem_zip (List.mem_of_getElem? hi)).left
    have hfirst := (Declaration.needsJoin_of_mem_firstOfPairs hfirst).left
    have hp' := (pair_mapTables h.inj (h.meets.accounts.resolves _ hfirst) hr).mpr hp
    rw [h.meets.demanded_eq_joinKeys hn hp (List.mem_of_getElem? hi),
      h.meets'.demanded_eq_joinKeys (needsJoin_mapTables.mpr hn) hp' (List.mem_of_getElem? hi')]
    obtain ⟨_, _, hc⟩ := h.meets.synthesized_joins.exists_columns (List.mem_of_getElem? hi)
    obtain ⟨_, _, hc'⟩ := h.meets'.synthesized_joins.exists_columns (List.mem_of_getElem? hi')
    refine List.forall₂_iff_get.mpr ⟨?_, fun n hlt hlt' => ?_⟩
    · simp [Declaration.joinKeys, hc, hc']
    · exact .join hi hi' (List.getElem?_eq_getElem hlt) (List.getElem?_eq_getElem hlt')
  case neg =>
    have hk' : (e.mapTables f).relationship.kind = e.relationship.kind := rfl
    have ht' : (e.mapTables f).relationship.throughTable = e.relationship.throughTable.map f := rfl
    have direct {table referenced : String × String} (ht : table.1 ∈ s.tables.map (·.name))
        (hr : referenced.1 ∈ s.tables.map (·.name)) :
        ForeignKey.Renamed f s p s' p' ⟨table.1, table.2, referenced.1, referenced.2⟩
          ⟨f table.1, table.2, f referenced.1, referenced.2⟩ := .direct ht hr
    unfold Declaration.demanded
    rw [hk', ht']
    cases hk : e.relationship.kind
    case oneToMany => exact .cons (direct hr.left_mem hr.right_mem) .nil
    case manyToMany =>
      cases ht : e.relationship.throughTable
      case none => exact absurd ⟨hk, ht⟩ hn
      case some through =>
        obtain ⟨⟨_, hl⟩, _, hr'⟩ := hr.through through hk ht
        exact .cons (direct hl.name_mem hr.left_mem) (.cons (direct hr'.name_mem hr.right_mem) .nil)

theorem keys (h : Renames f s d p s' d' p') :
    Forall₂ (ForeignKey.Renamed f s p s' p') (d.keys.map (·.key)) (d'.keys.map (·.key)) := by
  rw [h.meets.accounts.keys, h.meets'.accounts.keys, ← h.meets.synthesized, ← h.meets'.synthesized]
  refine forall₂_foldl_insertNew h.renamed_inj .nil ?_
  rw [h.declarations, List.flatMap_map]
  exact forall₂_flatMap fun e he => h.declarations ▸ h.demanded he

theorem length_declared (h : Renames f s d p s' d' p') :
    (p'.declared s').length = (p.declared s).length := by
  simp [declared, h.tables, h.length_synthesized]

theorem samePlace (h : Renames f s d p s' d' p') {place : Nat}
    (hp : place < (p.declared s).length) :
    SamePlace (p.declared s) (p'.declared s') (tableAt (p.declared s) place)
      (tableAt (p'.declared s') place) := by
  have hp' := h.length_declared ▸ hp
  exact ⟨place, by simp [tableAt, hp], by simp [tableAt, hp']⟩

theorem sameNamed_map (h : Renames f s d p s' d' p') {name : String}
    (hn : name ∈ s.tables.map (·.name)) :
    SameNamed (p.declared s) (p'.declared s') name (f name) := by
  have ⟨t, ht, hname⟩ := List.mem_map.mp hn
  have ⟨place, hp⟩ := List.mem_iff_getElem?.mp ht
  have hp' : s'.tables[place]? = some (t.mapTables f) := by simp [h.tables, hp]
  have hs : SamePlace (p.declared s) (p'.declared s') t (t.mapTables f) :=
    ⟨place, getElem?_append_of_eq_some hp, getElem?_append_of_eq_some hp'⟩
  exact hname ▸ hs.sameNamed

theorem same_joinKeys (h : Renames f s d p s' d' p') {i : Nat} {first : Declaration}
    {join join' : Table} (hm : (s.joins.zip p.synthesized)[i]? = some (first, join))
    (hm' : (s'.joins.zip p'.synthesized)[i]? = some (first.mapTables f, join')) :
    Forall₂ (ForeignKey.Same s (p.declared s) (p'.declared s')) (first.joinKeys join)
      ((first.mapTables f).joinKeys join') := by
  have ⟨hf, hj⟩ := List.getElem?_zip_eq_some.mp hm
  have ⟨_, hj'⟩ := List.getElem?_zip_eq_some.mp hm'
  have hlen : s'.tables.length = s.tables.length := by rw [h.tables, List.length_map]
  have ht : SamePlace (p.declared s) (p'.declared s') join join' :=
    ⟨s.tables.length + i, getElem?_declared hj, hlen ▸ getElem?_declared hj'⟩
  have ht := ht.sameNamed
  have hn {k : ForeignKey} (hk : k ∈ first.joinKeys join) :=
    h.meets.name_not_mem_of_joinKeys (List.mem_of_getElem? hm) hk
  have hr := Declaration.needsJoin_of_mem_firstOfPairs (List.mem_of_getElem? hf)
  have hr := h.meets.accounts.resolves first hr.left
  have ⟨l, r, hc⟩ := h.meets.synthesized_joins.exists_columns (List.mem_of_getElem? hm)
  have ⟨l', r', hc'⟩ := h.meets'.synthesized_joins.exists_columns (List.mem_of_getElem? hm')
  have hkeys : first.joinKeys join =
      [⟨join.name, l.name, first.left.1, first.left.2⟩,
        ⟨join.name, r.name, first.right.1, first.right.2⟩] := by
    simp [Declaration.joinKeys, hc]
  have hkeys' : (first.mapTables f).joinKeys join' =
      [⟨join'.name, l'.name, f first.left.1, first.left.2⟩,
        ⟨join'.name, r'.name, f first.right.1, first.right.2⟩] := by
    simp only [Declaration.joinKeys, hc']
    rfl
  rw [hkeys] at hn
  rw [hkeys, hkeys']
  refine .cons ⟨ht, fun hm => ?_, h.sameNamed_map hr.left_mem, rfl⟩
    (.cons ⟨ht, fun hm => ?_, h.sameNamed_map hr.right_mem, rfl⟩ .nil)
  · exact absurd hm (hn (List.mem_cons_self ..))
  · exact absurd hm (hn (List.mem_cons_of_mem _ (List.mem_singleton_self _)))

theorem same (h : Renames f s d p s' d' p') (hk : ForeignKey.Renamed f s p s' p' k k') :
    k.Same s (p.declared s) (p'.declared s') k' := by
  cases hk
  case direct hk hr => exact ⟨h.sameNamed_map hk, fun _ => rfl, h.sameNamed_map hr, rfl⟩
  case join i n m m' hm hm' hk hk' =>
    have ⟨hf, _⟩ := List.getElem?_zip_eq_some.mp hm
    have ⟨hf', _⟩ := List.getElem?_zip_eq_some.mp hm'
    rw [h.joins, List.getElem?_map, hf] at hf'
    have he : m' = (m.1.mapTables f, m'.2) := Prod.ext (Option.some.inj hf').symm rfl
    have hs := h.same_joinKeys hm (he ▸ hm')
    rw [he] at hk'
    have hlt := (List.getElem?_eq_some_iff.mp hk)
    have hlt' := (List.getElem?_eq_some_iff.mp hk')
    have := hs.get hlt.fst hlt'.fst
    simpa only [List.get_eq_getElem, hlt.snd, hlt'.snd] using this

theorem matches_keys (h : Renames f s d p s' d' p') :
    Forall₂ (PlacedKey.Matches id (ForeignKey.Same s (p.declared s) (p'.declared s')))
      d.keys d'.keys := by
  have hk := h.keys
  rw [List.forall₂_map_left_iff, List.forall₂_map_right_iff] at hk
  have hk := (List.forall₂_and_left _ _).mpr ⟨h.meets.accounts.fits, hk⟩
  have hk := (List.forall₂_and_left _ _).mpr ⟨h.meets'.accounts.fits, hk.flip⟩
  refine hk.flip.imp fun k k' ⟨hf', hf, hk⟩ => ?_
  have hs := h.same hk
  have hn := h.meets.nodup_names h.nodup
  have hn' := h.meets'.nodup_names h.nodup'
  have ⟨ho, ht⟩ := hf.named
  have ⟨ho', ht'⟩ := hf'.named
  rw [← h.meets.synthesized] at ho ht
  rw [← h.meets'.synthesized] at ho' ht'
  have ⟨owner, how, how'⟩ := hs.table
  have ⟨target, hta, hta'⟩ := hs.referencedTable
  exact ⟨(ho'.eq hn' how').trans (how.eq hn ho), (ht'.eq hn' hta').trans (hta.eq hn ht), hs⟩

theorem sameJoin (h : Renames f s d p s' d' p') {i : Nat} {join join' : Table}
    (he : s.joins[i]? = some e) (hj : p.synthesized[i]? = some join)
    (hj' : p'.synthesized[i]? = some join') : SameJoin e join join' := by
  have he' : s'.joins[i]? = some (e.mapTables f) := by
    rw [h.joins, List.getElem?_map, he]
    rfl
  have ⟨left, right, hl, hr, hjoin⟩ := h.meets.synthesized_joins.getElem? he
  have ⟨left', right', hl', hr', hjoin'⟩ := h.meets'.synthesized_joins.getElem? he'
  -- The ends of the declaration under the new names are the ends that it had.
  have hl' : left' = left.mapTables f := by
    refine hl'.eq h.nodup' ?_
    rw [h.tables]
    exact hl.mapTables
  have hr' : right' = right.mapTables f := by
    refine hr'.eq h.nodup' ?_
    rw [h.tables]
    exact hr.mapTables
  obtain rfl := Option.some.inj (hj.symm.trans hjoin)
  obtain rfl := Option.some.inj (hj'.symm.trans hjoin')
  subst hl' hr'
  refine ⟨rfl, .cons rfl (.cons rfl .nil), fun hne => ?_⟩
  have hne : left.column.name ≠ right.column.name := by
    rwa [Table.name_of_column? hl.column, Table.name_of_column? hr.column]
  simp [joinTable, joinColumnNames, Endpoint.mapTables, hne]

theorem graph_eq (h : Renames f s d p s' d' p') : h.meets'.graph = h.meets.graph := by
  have hsize := h.length_declared
  rw [h.meets.declared_eq, h.meets'.declared_eq] at hsize
  have hedges := Demand.edges_dependencies Function.injective_id h.matches_keys
    (s.tables ++ d.synthesized).length (s'.tables ++ d'.synthesized).length
  rw [Prod.map_id, List.map_id] at hedges
  exact congrArg₂ Dependencies.mk hsize hedges

theorem lt_of_mem_groups (h : Renames f s d p s' d' p') {group : List Nat}
    (hg : group ∈ h.meets.graph.groups) : ∀ place ∈ group, place < (p.declared s).length := by
  intro place hp
  have := h.meets.accounts.order_perm.mem_iff.mp (List.mem_flatten.mpr ⟨group, hg, hp⟩)
  rwa [List.mem_range, ← h.meets.declared_eq] at this

theorem samePlan (h : Renames f s d p s' d' p') : p.Same s s' p' := by
  have hd := h.meets.declared_eq
  have hd' := h.meets'.declared_eq
  have ho : d'.order (s'.tables ++ d'.synthesized).length =
      (d.order (s.tables ++ d.synthesized).length).map id := by
    rw [List.map_id]
    exact congrArg (·.groups.flatten) h.graph_eq
  constructor
  case length => exact h.length_synthesized
  case joins  => exact fun i e join join' => h.sameJoin
  case creations =>
    rw [h.meets.creations, h.meets'.creations, ho, ← hd, ← hd']
    refine Demand.forall₂_creations Function.injective_id h.matches_keys (fun place hp => ?_)
      fun _ => .rfl
    refine h.samePlace ?_
    have := h.meets.accounts.order_perm.mem_iff.mp (hd ▸ hp)
    rwa [List.mem_range, ← hd] at this
  case deferred =>
    rw [h.meets.deferred, h.meets'.deferred, ho]
    exact Demand.forall₂_deferred Function.injective_id h.matches_keys fun _ => .rfl
  case cycles =>
    have hg : (d'.dependencies (s'.tables ++ d'.synthesized).length).groups =
        h.meets.graph.groups := congrArg (·.groups) h.graph_eq
    rw [h.meets.cycles, h.meets'.cycles, hg, List.forall₂_map_left_iff, List.forall₂_map_right_iff,
      List.forall₂_same]
    intro group hgroup
    rw [List.forall₂_map_left_iff, List.forall₂_map_right_iff, List.forall₂_same, ← hd, ← hd']
    intro place hp
    exact (h.samePlace (h.lt_of_mem_groups (List.mem_of_mem_filter hgroup) place hp)).sameNamed

end Plan.Renames

theorem Schema.exists_plan_mapTables {f : String → String} {s s' : Schema} {p : Plan}
    (hn : (s.tables.map (·.name)).Nodup)
    (hf : ∀ a ∈ s.tables.map (·.name), ∀ b ∈ s.tables.map (·.name), f a = f b → a = b)
    (ht : s'.tables = s.tables.map (·.mapTables f)) (hp : s.plan = .ok p) :
    ∃ p', s'.plan = .ok p' ∧ p.Same s s' p' := by
  obtain ⟨d, hd⟩ := s.exists_meets hp
  have hn' : (s'.tables.map (·.name)).Nodup := by
    rw [ht, names_mapTables]
    exact hn.map_on hf
  obtain ⟨p', hp'⟩ := (exists_plan_iff hn').mpr fun e he => by
    rw [declarations, ht, declarations_mapTables] at he
    obtain ⟨e, he, heq⟩ := List.mem_map.mp he
    exact ht ▸ heq ▸ (hd.accounts.resolves e he).mapTables
  obtain ⟨d', hd'⟩ := s'.exists_meets hp'
  exact ⟨p', hp', Plan.Renames.samePlan ⟨hd, hd', ht, hn, hf⟩⟩

-- Renaming a table does not change what the schema means: the tables of the schema have the new
-- name in place of the old one, and the plan says the same about tables at the same places.
theorem Schema.plan_renameTable {s s' : Schema} {p : Plan} {old new : String}
    (hn : s.TablesDiffer) (hp : s.plan = .ok p) (h : s.renameTable old new = .ok s') :
    s'.tables = s.tables.map (·.mapTables (renamed old new)) ∧
      ∃ p', s'.plan = .ok p' ∧ p.Same s s' p' := by
  have ⟨ha, he⟩ := (Edit.meets_renameTable hn old new).of_applyTo h
  have ht : s'.tables = s.tables.map (·.mapTables (renamed old new)) := by
    have hk : (Edit.renameTable old new).keeps = fun _ => true := rfl
    have hnew : (Edit.renameTable old new).newTables = [] := rfl
    rw [he.tables, hk, hnew, List.append_nil, List.filter_true]
    exact List.map_congr_left fun t _ => Edit.changed_of_id rfl rfl rfl s' t
  refine ⟨ht, exists_plan_mapTables hn (fun a hm b hm' hab => ?_) ht hp⟩
  exact Edit.name_inj ha hm hm' hab

theorem plan_renameTable_staff :
    Staff.schema.TablesDiffer ∧ Staff.schema.plan = .ok Staff.plan ∧
    ∃ s' p', Staff.schema.renameTable "person" "employee" = .ok s' ∧ s'.plan = .ok p' ∧
      Staff.plan.Same Staff.schema s' p' ∧
      p'.synthesized.map (fun t => (t.name, t.columns.map (·.name))) =
        [("employee_employee", ["employee_id", "employee_id_2"]),
          ("employee_project", ["id", "code"])] := by
  have ⟨s', h⟩ : ∃ s', Staff.schema.renameTable "person" "employee" = .ok s' := ⟨_, rfl⟩
  have ⟨_, p', hp, hs⟩ := Schema.plan_renameTable Staff.nodup_names Staff.plan_eq h
  refine ⟨Staff.nodup_names, Staff.plan_eq, s', p', h, hp, hs, ?_⟩
  cases h
  cases hp
  rfl

end Relational
