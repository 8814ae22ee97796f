import Relational.Proofs.Plan.References
import Relational.Proofs.Plan.Synthesis
import Relational.Sql.Generate

namespace Relational

theorem append_eq_append_cons {α : Type} {front back before after : List α} {a : α}
    (h : front ++ back = before ++ a :: after) :
    (∃ rest, front = before ++ a :: rest) ∨
      ∃ later, before = front ++ later ∧ back = later ++ a :: after := by
  rcases List.append_eq_append_iff.mp h with ⟨later, hb, hl⟩ | ⟨rest, hf, hr⟩
  · exact .inr ⟨later, hb, hl⟩
  · cases rest
    case nil => exact .inr ⟨[], by simpa using hf.symm, hr.symm⟩
    case cons c rest =>
      obtain ⟨rfl, -⟩ := List.cons.inj hr
      exact .inl ⟨rest, hf⟩

theorem mem_before_iff_lt {before after : List Nat} {a b : Nat}
    (hs : (before ++ a :: after).Pairwise (· < ·)) (hb : b ∈ before ++ a :: after) :
    b ∈ before ↔ b < a := by
  have ⟨_, hafter, hbefore⟩ := List.pairwise_append.mp hs
  constructor
  · exact fun h => hbefore b h a List.mem_cons_self
  · intro hlt
    simp only [List.mem_append, List.mem_cons] at hb
    rcases hb with h | rfl | h
    · exact h
    · exact absurd hlt (Nat.lt_irrefl _)
    · exact absurd hlt (Nat.lt_asymm (List.rel_of_pairwise_cons hafter h))

namespace Reaches

variable {reaches : List (List Nat)} {taken before after : List Nat} {gs : List (List Nat)}
variable {a b : Nat}

theorem Taking.mem_before_iff (hc : Closed reaches) (h : Taking reaches taken gs)
    (hs : Saturated reaches taken) (ha : gs.flatten = before ++ a :: after)
    (hab : leads reaches a b) (hb : b ∉ taken) :
    b ∈ before ↔ ¬(leads reaches b a ∧ a ≤ b) := by
  induction h generalizing before
  case done => simp at ha
  case take taken x gs hn ht ih =>
    have hs' := hc.saturated_append_group (a := x) hs
    rcases append_eq_append_cons ha with ⟨rest, hx⟩ | ⟨later, hbefore, hgs⟩
    case inl =>
      have ⟨hxa, hax⟩ := hc.mem_group.mp (show a ∈ group reaches x by simp [hx])
      have hbx := (hn.ready.taken b (hc.trans hxa hab)).resolve_left hb
      have hm : b ∈ group reaches x := hc.mem_group.mpr ⟨hc.trans hxa hab, hbx⟩
      rw [mem_before_iff_lt (hx ▸ pairwise_group) (hx ▸ hm)]
      simp [hc.trans hbx hxa]
    case inr =>
      have hax : a ∉ group reaches x := fun hm =>
        ht.not_mem_taken hc hs' (hgs ▸ by simp) (List.mem_append_right _ hm)
      rw [hbefore, List.mem_append]
      by_cases hbx : b ∈ group reaches x
      case pos =>
        have hba : ¬leads reaches b a := fun hba =>
          hax (hc.mem_group_trans hbx (hc.mem_group.mpr ⟨hba, hab⟩))
        simp [hbx, hba]
      case neg => simpa [hbx] using ih hs' hgs (by simp [hb, hbx])

end Reaches

namespace Demand

variable {d : Demand} {created order : List Nat} {x : ForeignKey}

theorem mem_deferred :
    x ∈ d.deferred created order ↔
      ∃ k ∈ d.keys, k.key = x ∧ ∃ before after, order = before ++ k.owner :: after ∧
        ¬isInline (before.reverse ++ created) k := by
  induction order generalizing created
  case nil => simp [deferred]
  case cons place rest ih =>
    simp only [deferred, List.mem_append, List.mem_map, List.mem_filter, mem_keysOf, ih,
      Bool.not_eq_true']
    constructor
    · rintro (⟨k, ⟨⟨hk, rfl⟩, hi⟩, hx⟩ | ⟨k, hk, hx, before, after, rfl, hi⟩)
      · exact ⟨k, hk, hx, [], rest, rfl, by simpa using hi⟩
      · exact ⟨k, hk, hx, place :: before, after, rfl, by simpa using hi⟩
    · rintro ⟨k, hk, hx, before, after, ho, hi⟩
      cases before
      case nil =>
        obtain ⟨rfl, -⟩ := List.cons.inj ho
        exact .inl ⟨k, ⟨⟨hk, rfl⟩, by simpa using hi⟩, hx⟩
      case cons c before =>
        obtain ⟨hc, hr⟩ := List.cons.inj ho
        exact .inr ⟨k, hk, hx, before, after, hr, by simpa [hc] using hi⟩

end Demand

namespace Plan.Meets

open Reaches Dependencies

variable {s : Schema} {d : Demand} {p : Plan} {x : PlacedKey}

-- At the turn of its table a key has to wait for one that comes later on its circle.
theorem not_isInline_iff (h : p.Meets s d) (hx : x ∈ d.keys) {before after : List Nat}
    (ho : h.graph.groups.flatten = before ++ x.owner :: after) :
    ¬Demand.isInline (before.reverse ++ []) x ↔
      x.owner < x.target ∧ Relation.ReflTransGen h.graph.DependsOn x.target x.owner := by
  have hg := h.accounts.inRange
  by_cases hne : x.owner = x.target
  case pos => simp [Demand.isInline, hne]
  case neg =>
    have hd := hg.leads (Demand.dependsOn_iff.mpr ⟨x, hx, rfl, rfl, hne⟩)
    have hs : h.graph.Settled [] := .nil
    have hbefore :=
      hg.taking_groups.mem_before_iff hg.closed_reaches hs.saturated ho hd List.not_mem_nil
    have hback : leads h.graph.reaches x.target x.owner ↔
        Relation.ReflTransGen h.graph.DependsOn x.target x.owner :=
      (leads_iff hg).trans (and_iff_right (h.accounts.target_lt hx))
    have hlt : x.owner ≤ x.target ↔ x.owner < x.target := ⟨(Nat.lt_of_le_of_ne · hne), Nat.le_of_lt⟩
    simp only [Demand.isInline, List.append_nil, List.contains_reverse, Bool.or_eq_true, beq_iff_eq,
      Ne.symm hne, false_or, List.contains_iff_mem, hbefore, not_not, hback, hlt]
    exact and_comm

theorem key_mem_deferred_iff (h : p.Meets s d) (hx : x ∈ d.keys) :
    x.key ∈ p.deferred ↔
      x.owner < x.target ∧ Relation.ReflTransGen h.graph.DependsOn x.target x.owner := by
  rw [h.deferred, Demand.mem_deferred]
  constructor
  · intro ⟨k, hk, hkx, before, after, ho, hi⟩
    obtain rfl := List.inj_on_of_nodup_map h.accounts.nodup hk hx hkx
    exact (h.not_isInline_iff hx ho).mp hi
  · intro hwait
    have hm := h.accounts.order_perm.mem_iff.mpr (List.mem_range.mpr (h.accounts.owner_lt hx))
    have ⟨before, after, ho⟩ := List.append_of_mem hm
    exact ⟨x, hx, rfl, before, after, ho, (h.not_isInline_iff hx ho).mpr hwait⟩

theorem target_before (h : p.Meets s d) (hn : (s.tables.map (·.name)).Nodup)
    {before after : List Creation} {c : Creation} (hc : p.creations = before ++ c :: after)
    (hx : x ∈ d.keys) (hname : x.key.table = c.table.name) (hlt : x.target < x.owner) :
    tableAt (p.declared s) x.target ∈ before.map (·.table) := by
  rw [h.creations] at hc
  have ⟨l₁, place, l₂, ho, hb, hct, _⟩ := Demand.of_creations_eq hc
  have hplace : place = x.owner := by
    have hm : place ∈ d.order (s.tables ++ d.synthesized).length :=
      ho ▸ List.mem_append_right l₁ List.mem_cons_self
    have hlt := List.mem_range.mp (h.accounts.order_perm.mem_iff.mp hm)
    have hp : Named (s.tables ++ d.synthesized) place c.table.name := by
      simp [Named, hct, tableAt, List.getElem?_eq_getElem hlt]
    have hn := h.synthesized ▸ h.nodup_names hn
    exact hp.eq hn (hname ▸ (h.accounts.fits x hx).named.left)
  subst hplace
  have hin := (h.not_isInline_iff hx ho).not.mpr fun hw => Nat.lt_asymm hlt hw.left
  have hm : x.target ∈ l₁ := by simpa [Demand.isInline, Nat.ne_of_lt hlt] using hin
  rw [hb, h.declared_eq]
  exact List.mem_map_of_mem hm

theorem end_before (h : p.Meets s d) (hn : (s.tables.map (·.name)).Nodup)
    {before after : List Creation} {c : Creation} (hc : p.creations = before ++ c :: after)
    (hj : c.table ∈ p.synthesized) {q : Endpoint} {names : String × String}
    (hq : q.At s.tables names) {column : String}
    (hk : ⟨c.table.name, column, names.1, names.2⟩ ∈ p.keys) : q.table ∈ before.map (·.table) := by
  have ⟨x, hx, hxk⟩ := List.mem_map.mp (h.keys_perm.mem_iff.mp hk)
  have ⟨ho, ht⟩ := (h.accounts.fits x hx).named
  rw [hxk] at ho ht
  have hplace : x.target = q.place := by
    refine ht.eq (h.synthesized ▸ h.nodup_names hn) ?_
    rw [Named, hq.append.place, ← hq.table]
    rfl
  -- Join tables come last in the order of declaration.
  have hle : s.tables.length ≤ x.owner := by
    by_contra hlt
    have hlt : x.owner < s.tables.length := Nat.lt_of_not_le hlt
    rw [Named, List.getElem?_append_left hlt, List.getElem?_eq_getElem hlt] at ho
    exact h.name_ne_of_mem_synthesized (List.getElem_mem hlt) hj (Option.some.inj ho)
  have hlt := (List.getElem?_eq_some_iff.mp hq.place).fst
  have hb := h.target_before hn hc hx (hxk ▸ rfl) (by omega)
  rwa [hplace, h.declared_eq, tableAt_eq hq.append.place] at hb

theorem joined_before (h : p.Meets s d) (hn : (s.tables.map (·.name)).Nodup)
    {before after : List Creation} {c : Creation} (hc : p.creations = before ++ c :: after)
    (hj : c.table ∈ p.synthesized) :
    ∃ taken, ∃ left right : Endpoint, c.table = joinTable taken left right ∧
      ∀ q ∈ [left, right], q.table ∈ before.map (·.table) ∧ q.column ∈ q.table.columns := by
  have ⟨e, hm⟩ : ∃ e, (e, c.table) ∈ s.joins.zip p.synthesized := by
    have hlen := h.synthesized_joins.length_eq
    rw [← List.map_snd_zip (Nat.le_of_eq hlen.symm)] at hj
    have ⟨⟨e, _⟩, hm, heq⟩ := List.mem_map.mp hj
    exact ⟨e, heq ▸ hm⟩
  have ⟨_, left, right, _, hl, hr, hjoin⟩ := h.synthesized_joins.getElem?_of_mem_zip hm
  have ⟨l, r, hcols⟩ := h.synthesized_joins.exists_columns hm
  have hkeys : ∀ k ∈ e.joinKeys c.table, k ∈ p.keys :=
    fun k hk => ((h.mem_keys_join_iff hm).mpr hk).left
  simp only [Declaration.joinKeys, hcols, List.zip_cons_cons, List.zip_nil_right, List.map_cons,
    List.map_nil, List.forall_mem_cons] at hkeys
  have hleft := h.end_before hn hc hj hl hkeys.left
  have hright := h.end_before hn hc hj hr hkeys.right.left
  refine ⟨_, left, right, hjoin, ?_⟩
  rw [List.forall_mem_cons, List.forall_mem_singleton]
  exact ⟨⟨hleft, List.mem_of_find?_eq_some hl.column⟩, hright, List.mem_of_find?_eq_some hr.column⟩

end Plan.Meets

-- A key waits until all tables are there if and only if it points forward in the order of
-- declaration and keys lead back from the table that it references. So nothing waits, and no table
-- is altered by a script, if keys lead nowhere in a circle; keys of a table on itself do not count.
theorem Schema.mem_deferred_iff {s : Schema} {p : Plan} (hn : (s.tables.map (·.name)).Nodup)
    (hp : s.plan = .ok p) :
    (∀ k ∈ p.keys, ∃ o t, Named (p.declared s) o k.table ∧
      Named (p.declared s) t k.referencedTable ∧
      (k ∈ p.deferred ↔ o < t ∧ p.Leads s t o)) ∧
    ((∀ a b, p.References s a b → ¬p.Leads s b a) →
      p.deferred = [] ∧ ∀ d script, p.script d = .ok script → script.additions = []) := by
  have ⟨d, h⟩ := Schema.exists_meets hp
  have hkeys : ∀ k ∈ p.keys, ∃ o t, Named (p.declared s) o k.table ∧
      Named (p.declared s) t k.referencedTable ∧
      (k ∈ p.deferred ↔ o < t ∧ p.Leads s t o) := by
    intro k hk
    have ⟨x, hx, hxk⟩ := List.mem_map.mp (h.keys_perm.mem_iff.mp hk)
    have ⟨ho, ht⟩ := (h.accounts.fits x hx).named
    subst hxk
    refine ⟨x.owner, x.target, h.declared_eq ▸ ho, h.declared_eq ▸ ht, ?_⟩
    rw [h.key_mem_deferred_iff hx, Plan.Leads, h.references_eq hn]
  refine ⟨hkeys, fun hacyclic => ?_⟩
  have hnone : p.deferred = [] := by
    refine List.eq_nil_iff_forall_not_mem.mpr fun k hk => ?_
    have hm : k ∈ p.keys := List.mem_append_right _ hk
    have ⟨o, t, ho, ht, hiff⟩ := hkeys k hm
    have ⟨hlt, hback⟩ := hiff.mp hk
    exact hacyclic o t ⟨Nat.ne_of_lt hlt, k, hm, ho, ht⟩ hback
  refine ⟨hnone, fun dialect script hs => ?_⟩
  have ⟨_, _, hs⟩ := bind_eq_ok.mp hs
  rw [hnone] at hs
  cases hs
  rfl

theorem mem_deferred_iff_staff :
    (Staff.schema.tables.map (·.name)).Nodup ∧ Staff.schema.plan = .ok Staff.plan ∧
    ∃ o t, Named (Staff.plan.declared Staff.schema) o "department" ∧
      Named (Staff.plan.declared Staff.schema) t "person" ∧
      o < t ∧ Staff.plan.Leads Staff.schema t o := by
  refine ⟨Staff.nodup_names, Staff.plan_eq, ?_⟩
  have ⟨o, t, ho, ht, h⟩ := (Schema.mem_deferred_iff Staff.nodup_names Staff.plan_eq).left
    ⟨"department", "head", "person", "id"⟩ (by decide)
  exact ⟨o, t, ho, ht, h.mp (by decide)⟩

end Relational
