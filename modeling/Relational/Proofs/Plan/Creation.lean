import Mathlib.Data.List.Nodup
import Relational.Plan.Basic
import Relational.Proofs.Plan.Demand
import Relational.Proofs.Plan.Agenda

namespace Relational

def Plan.keys (p : Plan) : List ForeignKey :=
  p.creations.flatMap (·.keys) ++ p.deferred

def tableAt (tables : List Table) (place : Nat) : Table :=
  tables[place]?.getD default

theorem tableAt_eq {tables : List Table} {place : Nat} {t : Table} (h : tables[place]? = some t) :
    tableAt tables place = t := by
  rw [tableAt, h]
  rfl

theorem map_tableAt_range (tables : List Table) :
    (List.range tables.length).map (tableAt tables) = tables := by
  refine List.ext_getElem (by simp) fun i h₁ h₂ => ?_
  simp [tableAt, List.getElem?_eq_getElem h₂]

namespace Demand

def order (d : Demand) (size : Nat) : List Nat :=
  (d.dependencies size).groups.flatten

variable {d : Demand} {tables : List Table} {created order : List Nat} {k : PlacedKey}
variable {a b place size : Nat}

@[simp]
theorem mem_keysOf : k ∈ d.keysOf place ↔ k ∈ d.keys ∧ k.owner = place := by
  simp [keysOf]

theorem dependsOn_iff :
    (d.dependencies size).DependsOn a b ↔ ∃ k ∈ d.keys, k.owner = a ∧ k.target = b ∧ a ≠ b := by
  simp only [Dependencies.DependsOn, dependencies, List.mem_map, List.mem_filter, Prod.mk.injEq]
  constructor
  · rintro ⟨k, ⟨hk, hne⟩, rfl, rfl⟩
    exact ⟨k, hk, rfl, rfl, by simpa using hne⟩
  · rintro ⟨k, hk, rfl, rfl, hne⟩
    exact ⟨k, ⟨hk, by simpa using hne⟩, rfl, rfl⟩

theorem map_table_creations (d : Demand) (tables : List Table) (created order : List Nat) :
    (d.creations tables created order).map (·.table) = order.map (tableAt tables) := by
  induction order generalizing created
  case nil             => rfl
  case cons place _ ih => simp [creations, ih, tableAt]

open scoped List in
theorem keys_creations_append_deferred_perm (d : Demand) (tables : List Table)
    (created order : List Nat) :
    ((d.creations tables created order).flatMap (·.keys) ++ d.deferred created order).Perm
      ((order.flatMap d.keysOf).map (·.key)) := by
  induction order generalizing created
  case nil => rfl
  case cons place rest ih =>
    have hsplit := List.filter_append_perm (isInline created) (d.keysOf place)
    simp only [creations, deferred, List.flatMap_cons, List.map_append]
    calc
      _ = ((d.keysOf place).filter (isInline created)).map (·.key) ++
          ((d.creations tables (place :: created) rest).flatMap (·.keys) ++
            (((d.keysOf place).filter (!isInline created ·)).map (·.key) ++
              d.deferred (place :: created) rest)) := List.append_assoc ..
      _ ~ ((d.keysOf place).filter (isInline created)).map (·.key) ++
          (((d.keysOf place).filter (!isInline created ·)).map (·.key) ++
            ((d.creations tables (place :: created) rest).flatMap (·.keys) ++
              d.deferred (place :: created) rest)) :=
        List.perm_append_comm_assoc .. |>.append_left _
      _ = (((d.keysOf place).filter (isInline created)) ++
            ((d.keysOf place).filter (!isInline created ·))).map (·.key) ++
          ((d.creations tables (place :: created) rest).flatMap (·.keys) ++
            d.deferred (place :: created) rest) := by
        rw [List.map_append, List.append_assoc]
      _ ~ (d.keysOf place).map (·.key) ++ (rest.flatMap d.keysOf).map (·.key) :=
        (hsplit.map _).append (ih _)

theorem flatMap_keysOf_perm (hk : d.keys.Nodup) (hn : order.Nodup)
    (ho : ∀ k ∈ d.keys, k.owner ∈ order) : (order.flatMap d.keysOf).Perm d.keys := by
  have hd : (order.flatMap d.keysOf).Nodup := by
    refine List.nodup_flatMap.mpr ⟨fun _ _ => hk.filter _, hn.imp fun hne k h₁ h₂ => hne ?_⟩
    exact (mem_keysOf.mp h₁).right.symm.trans (mem_keysOf.mp h₂).right
  apply (List.perm_ext_iff_of_nodup hd hk).mpr
  intro k
  simp only [List.mem_flatMap, mem_keysOf]
  exact ⟨fun ⟨_, _, hk, _⟩ => hk, fun hk => ⟨_, ho k hk, hk, rfl⟩⟩

theorem of_creations_eq {before after : List Creation} {c : Creation}
    (h : d.creations tables created order = before ++ c :: after) :
    ∃ l₁ place l₂, order = l₁ ++ place :: l₂ ∧
      before.map (·.table) = l₁.map (tableAt tables) ∧
      c.table = tableAt tables place ∧
      c.keys = ((d.keysOf place).filter (isInline (l₁.reverse ++ created))).map (·.key) := by
  induction order generalizing created before
  case nil => simp [creations] at h
  case cons place rest ih =>
    rw [creations] at h
    cases before
    case nil =>
      obtain ⟨rfl, -⟩ := List.cons.inj h
      exact ⟨[], place, rest, rfl, rfl, rfl, rfl⟩
    case cons c' before =>
      rw [List.cons_append] at h
      have ⟨hc', h⟩ := List.cons.inj h
      have ⟨l₁, place', l₂, ho, hb, hc, hk⟩ := ih h
      subst hc'
      refine ⟨place :: l₁, place', l₂, by simp [ho], by simp [hb, tableAt], hc, ?_⟩
      simpa using hk

theorem exists_key_of_mem_deferred {x : ForeignKey} (h : x ∈ d.deferred created order) :
    ∃ k ∈ d.keys, k.key = x := by
  induction order generalizing created
  case nil => contradiction
  case cons place rest ih =>
    cases List.mem_append.mp h
    case inl h =>
      have ⟨k, hk, hx⟩ := List.mem_map.mp h
      exact ⟨k, (mem_keysOf.mp (List.mem_filter.mp hk).left).left, hx⟩
    case inr h => exact ih h

end Demand

namespace Accounts

variable {tables : List Table} {done : List Declaration} {d : Demand} {k : PlacedKey}

theorem owner_lt (h : Accounts tables done d) (hk : k ∈ d.keys) :
    k.owner < (tables ++ d.synthesized).length :=
  have ⟨_, ht, _⟩ := (h.fits k hk).owner
  (List.getElem?_eq_some_iff.mp ht).fst

theorem target_lt (h : Accounts tables done d) (hk : k ∈ d.keys) :
    k.target < (tables ++ d.synthesized).length :=
  have ⟨_, ht, _⟩ := (h.fits k hk).target
  (List.getElem?_eq_some_iff.mp ht).fst

theorem inRange (h : Accounts tables done d) :
    (d.dependencies (tables ++ d.synthesized).length).InRange := by
  intro a b hab
  have ⟨k, hk, ha, hb, _⟩ := Demand.dependsOn_iff.mp hab
  exact ⟨ha ▸ h.owner_lt hk, hb ▸ h.target_lt hk⟩

theorem order_perm (h : Accounts tables done d) :
    (d.order (tables ++ d.synthesized).length).Perm
      (List.range (tables ++ d.synthesized).length) :=
  h.inRange.groups_flatten_perm

theorem nodup_order (h : Accounts tables done d) :
    (d.order (tables ++ d.synthesized).length).Nodup :=
  h.order_perm.nodup_iff.mpr List.nodup_range

end Accounts

structure Plan.Meets (s : Schema) (d : Demand) (p : Plan) : Prop where
  accounts    : Accounts s.tables s.declarations d
  synthesized : p.synthesized = d.synthesized
  creations   : p.creations =
    d.creations (s.tables ++ d.synthesized) [] (d.order (s.tables ++ d.synthesized).length)
  deferred    : p.deferred = d.deferred [] (d.order (s.tables ++ d.synthesized).length)
  cycles      : p.cycles =
    ((d.dependencies (s.tables ++ d.synthesized).length).groups.filter (1 < ·.length)).map
      (·.map fun place => (tableAt (s.tables ++ d.synthesized) place).name)

theorem Schema.exists_meets {s : Schema} {p : Plan} (h : s.plan = .ok p) :
    ∃ d : Demand, p.Meets s d := by
  have ⟨d, hd, h⟩ := bind_eq_ok.mp h
  cases h
  exact ⟨d, Demand.accounts_of_ofTables hd, rfl, rfl, rfl, rfl⟩

namespace Plan.Meets

variable {s : Schema} {d : Demand} {p : Plan}

theorem tables_perm (h : p.Meets s d) :
    (p.creations.map (·.table)).Perm (s.tables ++ p.synthesized) := by
  have := h.accounts.order_perm.map (tableAt (s.tables ++ d.synthesized))
  rwa [map_tableAt_range, ← Demand.map_table_creations d _ [], ← h.creations,
    ← h.synthesized] at this

theorem nodup_names (h : p.Meets s d) (hn : (s.tables.map (·.name)).Nodup) :
    ((s.tables ++ p.synthesized).map (·.name)).Nodup := by
  have ⟨hj, hd⟩ := h.accounts.synthesized.nodup_lowerNames
  rw [← h.synthesized] at hj hd
  have lower (tables : List Table) :
      lowerNames tables = (tables.map (·.name)).map Text.lowercase := by simp [lowerNames]
  rw [lower] at hj hd
  rw [lower] at hd
  rw [List.map_append]
  refine hn.append hj.of_map fun name h₁ h₂ => ?_
  exact hd (List.mem_map_of_mem h₁) (List.mem_map_of_mem h₂)

theorem keys_perm (h : p.Meets s d) : p.keys.Perm (d.keys.map (·.key)) := by
  have hk : d.keys.Nodup := h.accounts.nodup.of_map
  have ho : ∀ k ∈ d.keys, k.owner ∈ d.order (s.tables ++ d.synthesized).length := fun k hk =>
    h.accounts.order_perm.mem_iff.mpr (List.mem_range.mpr (h.accounts.owner_lt hk))
  rw [Plan.keys, h.creations, h.deferred]
  exact (Demand.keys_creations_append_deferred_perm ..).trans
    ((Demand.flatMap_keysOf_perm hk h.accounts.nodup_order ho).map _)

theorem nodup_keys (h : p.Meets s d) : p.keys.Nodup :=
  h.keys_perm.nodup_iff.mpr h.accounts.nodup

theorem mem_keys (h : p.Meets s d) {k : ForeignKey} :
    k ∈ p.keys ↔ ∃ e ∈ s.declarations, k ∈ e.demanded (s.joins.zip p.synthesized) := by
  rw [h.keys_perm.mem_iff, h.accounts.mem_keys, h.synthesized]
  rfl

theorem exists_placed (h : p.Meets s d) {before after : List Creation} {c : Creation}
    (hc : p.creations = before ++ c :: after) {k : ForeignKey} (hk : k ∈ c.keys) :
    ∃ x ∈ d.keys, x.key = k ∧ (s.tables ++ d.synthesized)[x.owner]? = some c.table ∧
      ∃ t ∈ (before ++ [c]).map (·.table), (s.tables ++ d.synthesized)[x.target]? = some t := by
  rw [h.creations] at hc
  have ⟨l₁, place, _, _, hb, hct, hck⟩ := Demand.of_creations_eq hc
  have ⟨x, hx, hxk⟩ := List.mem_map.mp (hck ▸ hk)
  have ⟨hx, hin⟩ := List.mem_filter.mp hx
  have ⟨hx, hplace⟩ := Demand.mem_keysOf.mp hx
  have ⟨t, ht, _⟩ := (h.accounts.fits x hx).owner
  have ⟨u, hu, _⟩ := (h.accounts.fits x hx).target
  rw [← hplace, tableAt_eq ht] at hct
  refine ⟨x, hx, hxk, hct ▸ ht, u, ?_, hu⟩
  rw [List.map_append, hb, List.mem_append]
  simp only [Demand.isInline, List.append_nil, List.contains_reverse, Bool.or_eq_true, beq_iff_eq,
    List.contains_iff_mem] at hin
  cases hin
  case inl hself =>
    rw [hself, ht] at hu
    exact .inr (by simp [hct, Option.some.inj hu])
  case inr hearlier => exact .inl (tableAt_eq hu ▸ List.mem_map_of_mem hearlier)

end Plan.Meets
end Relational
