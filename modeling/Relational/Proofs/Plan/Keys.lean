import Relational.Proofs.Plan.Execution

namespace Relational

theorem find?_eq_some_of_nodup {α β : Type} [DecidableEq β] {f : α → β} {l : List α} {a : α}
    (hn : (l.map f).Nodup) (ha : a ∈ l) : l.find? (fun b => f b = f a) = some a := by
  cases hf : l.find? fun b => f b = f a
  case none => simpa using List.find?_eq_none.mp hf a ha
  case some b =>
    have heq : f b = f a := by simpa using List.find?_some hf
    rw [List.inj_on_of_nodup_map hn (List.mem_of_find?_eq_some hf) ha heq]

theorem owner_mem_of_mem_declarations {tables : List Table} {e : Declaration}
    (h : e ∈ declarations tables) : e.owner ∈ tables := by
  have ⟨t, ht, h⟩ := List.mem_flatMap.mp h
  have ⟨_, _, h⟩ := List.mem_map.mp h
  exact h ▸ ht

theorem Declaration.table_of_mem_joinKeys {e : Declaration} {join : Table} {k : ForeignKey}
    (h : k ∈ e.joinKeys join) : k.table = join.name := by
  have ⟨_, _, h⟩ := List.mem_map.mp h
  exact h ▸ rfl

namespace Plan.Meets

variable {s : Schema} {d : Demand} {p : Plan} {e first : Declaration} {join : Table}

theorem synthesized_joins (h : p.Meets s d) : Synthesized s.tables s.joins p.synthesized :=
  h.synthesized ▸ h.accounts.synthesized

theorem nodup_made (h : p.Meets s d) : ((s.joins.zip p.synthesized).map (·.1.pair)).Nodup := by
  have hn : (s.joins.map (·.pair)).Nodup := Declaration.nodup_pairs_firstOfPairs _
  rw [← h.synthesized_joins.map_fst_zip, List.map_map] at hn
  exact hn

theorem demanded_eq_joinKeys (h : p.Meets s d) (he : e.NeedsJoin) (hp : first.pair = e.pair)
    (hm : (first, join) ∈ s.joins.zip p.synthesized) :
    e.demanded (s.joins.zip p.synthesized) = first.joinKeys join := by
  have hf := find?_eq_some_of_nodup h.nodup_made hm
  simp only [hp] at hf
  rw [Declaration.demanded_of_needsJoin he, hf]

theorem exists_made (h : p.Meets s d) (he : e ∈ s.declarations) (hn : e.NeedsJoin) :
    ∃ first join, (first, join) ∈ s.joins.zip p.synthesized ∧ first.pair = e.pair := by
  have hp : e.pair ∈ s.joins.map (·.pair) := Declaration.pair_mem_firstOfPairs he hn
  rw [← h.synthesized_joins.map_fst_zip, List.map_map] at hp
  have ⟨⟨first, join⟩, hm, heq⟩ := List.mem_map.mp hp
  exact ⟨first, join, hm, heq⟩

theorem table_eq_of_mem_keys (h : p.Meets s d) {c : Creation} (hc : c ∈ p.creations)
    {k : ForeignKey} (hk : k ∈ c.keys) : k.table = c.table.name := by
  have ⟨_, _, hc⟩ := List.append_of_mem hc
  have ⟨x, hx, hxk, hc, _⟩ := h.exists_placed hc hk
  have ⟨t, ht, hname, _⟩ := (h.accounts.fits x hx).owner
  obtain rfl := Option.some.inj (ht.symm.trans hc)
  rw [hname, hxk]

end Plan.Meets

-- No key is lost, made up, doubled or put with another table than its own: the keys of a plan are
-- those that its declarations demand. A declaration that needs a join table shares the one of its
-- pair, which has one column for each end of the first declaration of the pair.
theorem Schema.mem_plan_keys_iff {s : Schema} {p : Plan} (hp : s.plan = .ok p) :
    p.keys.Nodup ∧
    (∀ c ∈ p.creations, ∀ k ∈ c.keys, k.table = c.table.name) ∧
    (∀ k, k ∈ p.keys ↔ ∃ e ∈ s.declarations, k ∈ e.demanded (s.joins.zip p.synthesized)) ∧
    (∀ e ∈ s.declarations, e.NeedsJoin →
      ∃ first join l r, (first, join) ∈ s.joins.zip p.synthesized ∧ first.pair = e.pair ∧
        join.columns = [l, r] ∧
        e.demanded (s.joins.zip p.synthesized) =
          [⟨join.name, l.name, first.left.1, first.left.2⟩,
            ⟨join.name, r.name, first.right.1, first.right.2⟩]) := by
  have ⟨d, h⟩ := Schema.exists_meets hp
  refine ⟨h.nodup_keys, fun c hc k => h.table_eq_of_mem_keys hc, fun k => h.mem_keys, ?_⟩
  intro e he hn
  have ⟨first, join, hm, heq⟩ := h.exists_made he hn
  have ⟨l, r, hc⟩ := h.synthesized_joins.exists_columns hm
  refine ⟨first, join, l, r, hm, heq, hc, ?_⟩
  rw [h.demanded_eq_joinKeys hn heq hm]
  simp [Declaration.joinKeys, hc]

theorem mem_plan_keys_iff_staff :
    Staff.schema.plan = .ok Staff.plan ∧ Staff.plan.keys.Nodup ∧
    ∀ k, k ∈ Staff.plan.keys ↔ ∃ e ∈ Staff.schema.declarations,
      k ∈ e.demanded (Staff.schema.joins.zip [Staff.acquaintance, Staff.assignment]) :=
  have h := Schema.mem_plan_keys_iff Staff.plan_eq
  ⟨Staff.plan_eq, h.left, h.right.right.left⟩

end Relational
