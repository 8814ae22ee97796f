import Relational.Proofs.Plan.Resolution

namespace Relational

open Declaration (firstOfPairs)

variable (f : String → String)

def Relationship.mapTables (r : Relationship) : Relationship :=
  { r with relatedTable := f r.relatedTable, throughTable := r.throughTable.map f }

def Table.mapTables (t : Table) : Table :=
  { t with name := f t.name, relationships := t.relationships.map (·.mapTables f) }

def Declaration.mapTables (e : Declaration) : Declaration where
  owner := e.owner.mapTables f
  relationship := e.relationship.mapTables f

def Endpoint.mapTables (e : Endpoint) : Endpoint :=
  { e with table := e.table.mapTables f }

variable {f} {tables : List Table} {e e' : Declaration} {names : String × String}

theorem names_mapTables (f : String → String) (tables : List Table) :
    (tables.map (·.mapTables f)).map (·.name) = (tables.map (·.name)).map f := by
  simp [Function.comp_def, Table.mapTables]

theorem declarations_mapTables (f : String → String) (tables : List Table) :
    declarations (tables.map (·.mapTables f)) = (declarations tables).map (·.mapTables f) := by
  simp only [declarations, List.flatMap_map, List.map_flatMap, Table.mapTables, List.map_map]
  rfl

theorem needsJoin_mapTables : (e.mapTables f).NeedsJoin ↔ e.NeedsJoin := by
  simp [Declaration.NeedsJoin, Declaration.mapTables, Relationship.mapTables]

theorem Endpoint.At.mapTables {p : Endpoint} (h : p.At tables names) :
    (p.mapTables f).At (tables.map (·.mapTables f)) (f names.1, names.2) where
  place  := by simp [Endpoint.mapTables, h.place]
  table  := congrArg f h.table
  column := h.column

theorem Endpoint.At.name_mem {p : Endpoint} (h : p.At tables names) :
    names.1 ∈ tables.map (·.name) :=
  h.table ▸ List.mem_map_of_mem h.mem

namespace Declaration.Resolves

theorem mapTables (h : e.Resolves tables) :
    (e.mapTables f).Resolves (tables.map (·.mapTables f)) where
  left :=
    have ⟨_, hp⟩ := h.left
    ⟨_, hp.mapTables⟩
  right :=
    have ⟨_, hp⟩ := h.right
    ⟨_, hp.mapTables⟩
  through t hk ht := by
    have ⟨through, ht, he⟩ := Option.map_eq_some_iff.mp ht
    have ⟨⟨_, hl⟩, _, hr⟩ := h.through through hk ht
    exact he ▸ ⟨⟨_, hl.mapTables⟩, _, hr.mapTables⟩

theorem left_mem (h : e.Resolves tables) : e.left.1 ∈ tables.map (·.name) :=
  have ⟨_, hp⟩ := h.left
  hp.name_mem

theorem right_mem (h : e.Resolves tables) : e.right.1 ∈ tables.map (·.name) :=
  have ⟨_, hp⟩ := h.right
  hp.name_mem

end Declaration.Resolves

section

variable (hf : ∀ a ∈ tables.map (·.name), ∀ b ∈ tables.map (·.name), f a = f b → a = b)

include hf in
theorem pair_mapTables (h : e.Resolves tables) (h' : e'.Resolves tables) :
    (e.mapTables f).pair = (e'.mapTables f).pair ↔ e.pair = e'.pair := by
  have same {m n : String × String} (hm : m.1 ∈ tables.map (·.name))
      (hn : n.1 ∈ tables.map (·.name)) : (f m.1, m.2) = (f n.1, n.2) ↔ m = n := by
    rw [Prod.mk.injEq, Prod.ext_iff]
    exact and_congr_left fun _ => ⟨hf _ hm _ hn, congrArg f⟩
  have hl : (e.mapTables f).left = (f e.left.1, e.left.2) := rfl
  have hr : (e.mapTables f).right = (f e.right.1, e.right.2) := rfl
  have hl' : (e'.mapTables f).left = (f e'.left.1, e'.left.2) := rfl
  have hr' : (e'.mapTables f).right = (f e'.right.1, e'.right.2) := rfl
  simp only [Declaration.pair, Sym2.eq_iff, hl, hr, hl', hr', same h.left_mem h'.left_mem,
    same h.right_mem h'.right_mem, same h.left_mem h'.right_mem, same h.right_mem h'.left_mem]

include hf in
theorem firstOfPairs_mapTables {es : List Declaration} (h : ∀ e ∈ es, e.Resolves tables) :
    firstOfPairs (es.map (·.mapTables f)) = (firstOfPairs es).map (·.mapTables f) := by
  induction es using List.reverseRecOn
  case nil => rfl
  case append_singleton es e ih =>
    have hes : ∀ e ∈ es, e.Resolves tables := fun e he => h e (List.mem_append_left _ he)
    have he := h e (by simp)
    have hp : (e.mapTables f).pair ∈ (firstOfPairs (es.map (·.mapTables f))).map (·.pair) ↔
        e.pair ∈ (firstOfPairs es).map (·.pair) := by
      rw [ih hes, List.map_map]
      simp only [List.mem_map, Function.comp_apply]
      refine exists_congr fun e' => and_congr_right fun he' => ?_
      have he' := hes e' (Declaration.needsJoin_of_mem_firstOfPairs he').left
      exact pair_mapTables hf he' he
    rw [List.map_append, List.map_singleton]
    rcases Declaration.firstOfPairs_append es e with ⟨hn, hm, heq⟩ | ⟨hm, heq⟩
    · rw [heq, List.map_append, ← ih hes]
      exact Declaration.firstOfPairs_append_of_needsJoin (needsJoin_mapTables.mpr hn) (mt hp.mp hm)
    · rw [heq, ← ih hes]
      refine Declaration.firstOfPairs_append_of_not fun ⟨hn, hm'⟩ => hm' (hp.mpr (hm ?_))
      exact needsJoin_mapTables.mp hn

end

end Relational
