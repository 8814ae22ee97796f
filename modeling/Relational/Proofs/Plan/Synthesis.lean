import Relational.Proofs.Plan.Keys

namespace Relational

structure IsJoinTable (s : Schema) (p : Plan) (before : List Table) (e : Declaration)
    (join : Table) : Prop where
  name : Text.LeastFree Text.lowercase (lowerNames (s.tables ++ before))
    (e.left.1 ++ "_" ++ e.right.1) join.name
  marked : join.joinTable
  noRelationships : join.relationships = []
  columns : ∃ related ∈ s.tables, related.name = e.right.1 ∧
    ∃ (toLeft toRight : Column) (l r : String),
      e.owner.column? e.left.2 = some toLeft ∧ related.column? e.right.2 = some toRight ∧ l ≠ r ∧
      join.columns =
        [{ name := l, type := toLeft.type, primaryKey := true, autoIncrement := false },
          { name := r, type := toRight.type, primaryKey := true, autoIncrement := false }] ∧
      (p.keys.filter (·.table = join.name)).Perm
        [⟨join.name, l, e.left.1, e.left.2⟩, ⟨join.name, r, e.right.1, e.right.2⟩]

theorem eq_of_name_eq {tables : List Table} (hn : (tables.map (·.name)).Nodup) {t u : Table}
    (ht : t ∈ tables) (hu : u ∈ tables) (h : t.name = u.name) : t = u :=
  List.inj_on_of_nodup_map hn ht hu h

theorem Endpoint.At.mem {tables : List Table} {e : Endpoint} {names : String × String}
    (h : e.At tables names) : e.table ∈ tables :=
  List.mem_of_getElem? h.place

namespace Plan.Meets

variable {s : Schema} {d : Demand} {p : Plan} {e : Declaration} {join t : Table}
variable {k : ForeignKey}

theorem name_ne_of_mem_synthesized (h : p.Meets s d) (ht : t ∈ s.tables)
    (hj : join ∈ p.synthesized) : t.name ≠ join.name := by
  intro heq
  have ht := mem_lowerNames ht
  rw [heq] at ht
  exact h.synthesized_joins.nodup_lowerNames.right ht (mem_lowerNames hj)

theorem eq_of_join_name_eq (h : p.Meets s d) {f : Declaration} {join' : Table}
    (hm : (e, join) ∈ s.joins.zip p.synthesized) (hm' : (f, join') ∈ s.joins.zip p.synthesized)
    (heq : join.name = join'.name) : (e, join) = (f, join') := by
  have hn : ((s.joins.zip p.synthesized).map fun m => Text.lowercase m.2.name).Nodup := by
    have hn := h.synthesized_joins.nodup_lowerNames.left
    have hlen : p.synthesized.length ≤ s.joins.length :=
      Nat.le_of_eq h.synthesized_joins.length_eq.symm
    rw [← List.map_snd_zip hlen, lowerNames, List.map_map] at hn
    exact hn
  exact List.inj_on_of_nodup_map hn hm hm' (congrArg Text.lowercase heq)

theorem mem_keys_join_iff (h : p.Meets s d) (hm : (e, join) ∈ s.joins.zip p.synthesized) :
    k ∈ p.keys ∧ k.table = join.name ↔ k ∈ e.joinKeys join := by
  have ⟨he, hj⟩ := List.of_mem_zip hm
  have ⟨he, hn⟩ := Declaration.needsJoin_of_mem_firstOfPairs he
  constructor
  · intro ⟨hk, hname⟩
    have ⟨f, hf, hk⟩ := h.mem_keys.mp hk
    have hres := h.accounts.resolves f hf
    have hparsed {t : Table} (ht : t ∈ s.tables) (hkt : k.table = t.name) : False :=
      h.name_ne_of_mem_synthesized ht hj (hkt.symm.trans hname)
    -- A declaration that needs no join table demands keys of tables of the schema.
    by_cases hfn : f.NeedsJoin
    case pos =>
      have ⟨first, join', hm', hp⟩ := h.exists_made hf hfn
      rw [h.demanded_eq_joinKeys hfn hp hm'] at hk
      have hname' := (Declaration.table_of_mem_joinKeys hk).symm.trans hname
      obtain ⟨rfl, rfl⟩ := Prod.mk.inj (h.eq_of_join_name_eq hm' hm hname')
      exact hk
    case neg =>
      exfalso
      unfold Declaration.demanded at hk
      split at hk
      case h_1 =>
        rw [List.mem_singleton] at hk
        exact hparsed (owner_mem_of_mem_declarations hf) (congrArg ForeignKey.table hk)
      case h_2 through hkind ht =>
        have ⟨⟨q, hq⟩, _⟩ := hres.through through hkind ht
        refine hparsed hq.mem ?_
        simp only [List.mem_cons, List.not_mem_nil, or_false] at hk
        rcases hk with rfl | rfl <;> exact hq.table.symm
      case h_3 hkind ht => exact hfn ⟨hkind, ht⟩
  · intro hk
    refine ⟨h.mem_keys.mpr ⟨e, he, ?_⟩, Declaration.table_of_mem_joinKeys hk⟩
    rwa [h.demanded_eq_joinKeys hn rfl hm]

theorem isJoinTable (h : p.Meets s d) (hn : (s.tables.map (·.name)).Nodup) {i : Nat}
    (he : s.joins[i]? = some e) (hj : p.synthesized[i]? = some join) :
    IsJoinTable s p (p.synthesized.take i) e join := by
  have hm : (e, join) ∈ s.joins.zip p.synthesized :=
    List.mem_of_getElem? (List.getElem?_zip_eq_some.mpr ⟨he, hj⟩)
  have hes := (Declaration.needsJoin_of_mem_firstOfPairs (List.of_mem_zip hm).left).left
  have ⟨left, right, hl, hr, hj'⟩ := h.synthesized_joins.getElem? he
  obtain rfl := Option.some.inj (hj.symm.trans hj')
  have howner : left.table = e.owner :=
    eq_of_name_eq hn hl.mem (owner_mem_of_mem_declarations hes) hl.table
  refine ⟨?_, rfl, rfl, right.table, hr.mem, hr.table, left.column, right.column, _, _,
    howner ▸ hl.column, hr.column, joinColumnNames_ne, rfl, ?_⟩
  · rw [← hl.table, ← hr.table]
    exact leastFree_joinTable_name
  · apply (List.perm_ext_iff_of_nodup (h.nodup_keys.filter _) ?_).mpr
    · intro k
      rw [List.mem_filter, decide_eq_true_iff, h.mem_keys_join_iff hm]
      rfl
    · simp [joinColumnNames_ne]

end Plan.Meets

-- Join tables stand for the pairs of ends that need one, in the order in which those are first
-- declared, and no name of a join table is that of another table in any letter case.
theorem Schema.synthesized_joinTables {s : Schema} {p : Plan} (hn : (s.tables.map (·.name)).Nodup)
    (hp : s.plan = .ok p) :
    s.joins.Sublist s.declarations ∧
    (s.joins.map (·.pair)).Nodup ∧
    (∀ q, q ∈ s.joins.map (·.pair) ↔ ∃ e ∈ s.declarations, e.NeedsJoin ∧ e.pair = q) ∧
    p.synthesized.length = s.joins.length ∧
    (lowerNames p.synthesized).Nodup ∧
    (lowerNames s.tables).Disjoint (lowerNames p.synthesized) ∧
    ∀ i e join, s.joins[i]? = some e → p.synthesized[i]? = some join →
      IsJoinTable s p (p.synthesized.take i) e join := by
  have ⟨d, h⟩ := Schema.exists_meets hp
  have hs := h.synthesized_joins
  refine ⟨Declaration.firstOfPairs_sublist _, Declaration.nodup_pairs_firstOfPairs _, fun q => ?_,
    hs.length_eq.symm, hs.nodup_lowerNames.left, hs.nodup_lowerNames.right,
    fun i e join he hj => h.isJoinTable hn he hj⟩
  constructor
  · intro hq
    have ⟨e, he, hpair⟩ := List.mem_map.mp hq
    have ⟨he, hneeds⟩ := Declaration.needsJoin_of_mem_firstOfPairs he
    exact ⟨e, he, hneeds, hpair⟩
  · intro ⟨e, he, hneeds, hpair⟩
    exact hpair ▸ Declaration.pair_mem_firstOfPairs he hneeds

theorem synthesized_joinTables_staff :
    (Staff.schema.tables.map (·.name)).Nodup ∧ Staff.schema.plan = .ok Staff.plan ∧
    IsJoinTable Staff.schema Staff.plan [Staff.acquaintance]
      ⟨Staff.person, ⟨.manyToMany, "project", "id", "code", none⟩⟩ Staff.assignment :=
  have h := Schema.synthesized_joinTables Staff.nodup_names Staff.plan_eq
  ⟨Staff.nodup_names, Staff.plan_eq, h.right.right.right.right.right.right 1 _ _ (by rfl) (by rfl)⟩

end Relational
