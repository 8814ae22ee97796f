import Mathlib.Data.List.Sort
import Relational.Proofs.Plan.Execution
import Relational.Proofs.Plan.References

namespace Relational

open Relation (ReflTransGen)

-- The places of a strongly connected component, in ascending order.
structure IsComponent (refers : Nat → Nat → Prop) (size : Nat) (places : List Nat) : Prop where
  nonempty  : places ≠ []
  ascending : places.Pairwise (· < ·)
  lt        : ∀ a ∈ places, a < size
  mem_iff   : ∀ a ∈ places, ∀ b,
    b ∈ places ↔ ReflTransGen refers a b ∧ ReflTransGen refers b a

-- A component that may come next: it is not there yet, and all that it references is.
structure MayFollow (refers : Nat → Nat → Prop) (size : Nat) (there places : List Nat) : Prop where
  component : IsComponent refers size places
  fresh     : ∀ a ∈ places, a ∉ there
  ready     : ∀ a ∈ places, ∀ b, refers a b → b ∈ places ∨ b ∈ there

-- Components one after the other until every place is there, always the one with the smallest place
-- of all that may come next.
inductive Emission (refers : Nat → Nat → Prop) (size : Nat) : List Nat → List (List Nat) → Prop
  | done {there} : (∀ a < size, a ∈ there) → Emission refers size there []
  | next {there places rest} :
    MayFollow refers size there places →
    (∃ a ∈ places, ∀ others, MayFollow refers size there others → ∀ b ∈ others, a ≤ b) →
    Emission refers size (there ++ places) rest → Emission refers size there (places :: rest)

variable {refers : Nat → Nat → Prop} {size : Nat} {there places others : List Nat}
variable {groups : List (List Nat)} {a b : Nat}

theorem IsComponent.eq (h : IsComponent refers size places) (h' : IsComponent refers size others)
    (ha : a ∈ places) (ha' : a ∈ others) : places = others := by
  have hp : places.Perm others := by
    refine (List.perm_ext_iff_of_nodup h.ascending.nodup h'.ascending.nodup).mpr fun b => ?_
    rw [h.mem_iff a ha, h'.mem_iff a ha']
  exact hp.eq_of_pairwise (fun _ _ _ _ h₁ h₂ => absurd h₁ (Nat.lt_asymm h₂))
    h.ascending h'.ascending

theorem Emission.unique {groups' : List (List Nat)} (h : Emission refers size there groups)
    (h' : Emission refers size there groups') : groups = groups' := by
  induction h generalizing groups'
  case done hall =>
    cases h'
    case done => rfl
    case next hf _ _ =>
      have ⟨a, ha⟩ := List.exists_mem_of_ne_nil _ hf.component.nonempty
      exact absurd (hall a (hf.component.lt a ha)) (hf.fresh a ha)
  case next there places rest hf hleast _ ih =>
    cases h'
    case done hall =>
      have ⟨a, ha⟩ := List.exists_mem_of_ne_nil _ hf.component.nonempty
      exact absurd (hall a (hf.component.lt a ha)) (hf.fresh a ha)
    case next others rest' hf' hleast' hrest =>
      have ⟨a, ha, hle⟩ := hleast
      have ⟨b, hb, hle'⟩ := hleast'
      obtain rfl := Nat.le_antisymm (hle _ hf' b hb) (hle' _ hf a ha)
      obtain rfl := hf.component.eq hf'.component ha hb
      rw [ih hrest]

theorem emission_of_backward (hb : ∀ a b, refers a b → b < a) {start count : Nat}
    (hsize : start + count = size) :
    Emission refers size (List.range start) ((List.range' start count).map ([·])) := by
  -- No chain leads to a later place, so every place is a component of its own.
  have hchain {a b : Nat} (h : ReflTransGen refers a b) : b ≤ a := by
    induction h
    case refl          => exact Nat.le_refl _
    case tail _ _ hd ih => exact Nat.le_trans (Nat.le_of_lt (hb _ _ hd)) ih
  induction count generalizing start
  case zero => exact .done fun a ha => List.mem_range.mpr (by omega)
  case succ count ih =>
    refine .next ⟨⟨by simp, by simp, ?lt, ?component⟩, by simp, ?ready⟩
      ⟨start, by simp, ?least⟩ ?rest
    case lt =>
      simp only [List.mem_singleton, forall_eq]
      omega
    case component =>
      simp only [List.mem_singleton, forall_eq]
      intro b
      constructor
      · rintro rfl
        exact ⟨.refl, .refl⟩
      · exact fun ⟨h₁, h₂⟩ => Nat.le_antisymm (hchain h₁) (hchain h₂)
    case ready =>
      simp only [List.mem_singleton, forall_eq, List.mem_range]
      exact fun b hd => .inr (hb _ b hd)
    case least =>
      intro others hf b hm
      have := hf.fresh b hm
      rw [List.mem_range] at this
      omega
    case rest =>
      rw [← List.range_succ]
      exact ih (by omega)

namespace Reaches.Taking

open Reaches Dependencies

variable {g : Dependencies} {taken : List Nat}

theorem isReady_of_mayFollow (hg : g.InRange) (hs : g.Settled taken)
    (hf : MayFollow g.DependsOn g.size taken places) (ha : a ∈ places) :
    IsReady g.reaches taken a := by
  refine ⟨hf.fresh a ha, fun b hb => ?_⟩
  have hchain := ((leads_iff hg).mp hb).right
  have hmem : b ∈ taken ∨ b ∈ places := by
    clear hb
    induction hchain
    case refl => exact .inr ha
    case tail x b _ hd ih =>
      rcases ih with ht | hx
      · exact .inl (hs.closed x ht b hd)
      · exact (hf.ready x hx b hd).symm
  refine hmem.imp_right fun hm => (leads_iff hg).mpr ⟨hf.component.lt b hm, ?_⟩
  exact ((hf.component.mem_iff a ha b).mp hm).right

theorem mayFollow_of_next (hg : g.InRange) (hs : g.Settled taken) (hn : Next g.reaches taken a) :
    MayFollow g.DependsOn g.size taken (group g.reaches a) := by
  have hc := hg.closed_reaches
  have hlt {b : Nat} (hb : b ∈ group g.reaches a) : b < g.size :=
    length_reaches ▸ lt_of_mem_group hb
  refine ⟨⟨?nonempty, pairwise_group, fun b => hlt, fun b hb c => ?component⟩, ?fresh, ?ready⟩
  case nonempty => exact List.ne_nil_of_mem (hc.mem_group_self hn.lt)
  case component =>
    rw [← hc.group_eq_of_mem hb, hc.mem_group, leads_iff hg, leads_iff hg]
    constructor
    · exact fun ⟨⟨_, h₁⟩, _, h₂⟩ => ⟨h₁, h₂⟩
    · exact fun ⟨h₁, h₂⟩ => ⟨⟨hlt hb, h₁⟩, hg.lt_of_chain (hlt hb) h₁, h₂⟩
  case fresh => exact fun b hb ht => hn.ready.missing (hs.saturated b ht a (hc.mem_group_symm hb))
  case ready =>
    intro b hb c hd
    have hac := hc.trans (hc.mem_group.mp hb).left (hg.leads hd)
    exact (hn.ready.taken c hac).symm.imp_left fun hca => hc.mem_group.mpr ⟨hac, hca⟩

theorem emission (hg : g.InRange) (h : Taking g.reaches taken groups) (hs : g.Settled taken) :
    Emission g.DependsOn g.size taken groups := by
  induction h
  case done hall => exact .done (length_reaches (g := g) ▸ hall)
  case take taken a _ hn _ ih =>
    have hc := hg.closed_reaches
    refine .next (mayFollow_of_next hg hs hn) ⟨a, hc.mem_group_self hn.lt, ?_⟩
      (ih (hs.append_group hg hn.ready))
    intro others hf b hb
    by_contra hlt
    exact hn.least b (by omega) (isReady_of_mayFollow hg hs hf hb)

end Reaches.Taking

-- The tables are created in the one order that the graph of the keys allows: components in the
-- order of emission, and the tables of each by declaration. Circles are the components of several
-- tables. If no key points forward, the tables are created as they are declared.
theorem Schema.plan_order {s : Schema} {p : Plan} (hn : (s.tables.map (·.name)).Nodup)
    (hp : s.plan = .ok p) :
    (∃ groups, Emission (p.References s) (p.declared s).length [] groups ∧
      (∀ others, Emission (p.References s) (p.declared s).length [] others → others = groups) ∧
      p.creations.map (·.table) = groups.flatten.map (tableAt (p.declared s)) ∧
      p.cycles = (groups.filter (2 ≤ ·.length)).map
        (·.map fun place => (tableAt (p.declared s) place).name)) ∧
    ((∀ k ∈ p.keys, ∀ o t, Named (p.declared s) o k.table →
        Named (p.declared s) t k.referencedTable → t ≤ o) →
      p.creations.map (·.table) = p.declared s) := by
  have ⟨d, h⟩ := Schema.exists_meets hp
  have hg := h.accounts.inRange
  have he : Emission (p.References s) (p.declared s).length [] h.graph.groups := by
    rw [h.references_eq hn, h.declared_eq]
    exact hg.taking_groups.emission hg .nil
  have ht : p.creations.map (·.table) =
      h.graph.groups.flatten.map (tableAt (p.declared s)) := by
    rw [h.creations, h.declared_eq, Demand.map_table_creations]
    rfl
  refine ⟨⟨_, he, fun _ ho => ho.unique he, ht, h.declared_eq ▸ h.cycles⟩, fun hback => ?_⟩
  have hb : ∀ a b, p.References s a b → b < a := by
    intro a b ⟨hne, k, hk, ha, hb⟩
    exact Nat.lt_of_le_of_ne (hback k hk a b ha hb) (Ne.symm hne)
  have hs := emission_of_backward hb (Nat.zero_add (p.declared s).length)
  have hflat (places : List Nat) : (places.map ([·])).flatten = places := by
    rw [← List.flatMap_def, List.flatMap_singleton']
  rw [ht, he.unique hs, hflat, ← List.range_eq_range', map_tableAt_range]

theorem plan_order_staff :
    (Staff.schema.tables.map (·.name)).Nodup ∧ Staff.schema.plan = .ok Staff.plan ∧
    ∃ groups, Emission (Staff.plan.References Staff.schema) 7 [] groups ∧
      Staff.plan.creations.map (·.table) =
        groups.flatten.map (tableAt (Staff.plan.declared Staff.schema)) ∧
      (groups.filter (2 ≤ ·.length)).map
        (·.map fun place => (tableAt (Staff.plan.declared Staff.schema) place).name) =
          [["department", "person"]] :=
  have ⟨⟨groups, he, _, ht, hc⟩, _⟩ := Schema.plan_order Staff.nodup_names Staff.plan_eq
  ⟨Staff.nodup_names, Staff.plan_eq, groups, he, ht, hc.symm⟩

end Relational
