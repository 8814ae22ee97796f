import Relational.Proofs.Plan.Groups

namespace Relational

namespace Reaches.Closed

variable {reaches : List (List Nat)} {a b : Nat}

theorem group_eq_of_mem (hc : Closed reaches) (h : b ∈ group reaches a) :
    group reaches b = group reaches a := by
  have heq : ∀ c, c ∈ group reaches b ↔ c ∈ group reaches a := fun c =>
    ⟨hc.mem_group_trans h, hc.mem_group_trans (hc.mem_group_symm h)⟩
  simp only [group, List.mem_filter] at heq
  refine List.filter_congr fun c hm => Bool.eq_iff_iff.mpr ?_
  simpa [hm] using heq c

theorem leader_eq_of_mem (hc : Closed reaches) (h : b ∈ group reaches a) :
    leader reaches b = leader reaches a := by
  have ⟨c, cs, hg⟩ := List.exists_cons_of_ne_nil (List.ne_nil_of_mem h)
  rw [leader, leader, hc.group_eq_of_mem h, hg]
  rfl

theorem leader_mem_group (hc : Closed reaches) (ha : a < reaches.length) :
    leader reaches a ∈ group reaches a := by
  have ⟨c, cs, hg⟩ := List.exists_cons_of_ne_nil (List.ne_nil_of_mem (hc.mem_group_self ha))
  simp [leader, hg]

theorem leader_le (hc : Closed reaches) (ha : a < reaches.length) : leader reaches a ≤ a := by
  have hp : (group reaches a).Pairwise (· < ·) := pairwise_group
  have hm := hc.mem_group_self ha
  unfold leader
  cases hg : group reaches a
  case nil => simp [hg] at hm
  case cons c cs =>
    rw [hg] at hp hm
    cases List.mem_cons.mp hm
    case inl he => exact Nat.le_of_eq he.symm
    case inr hm => exact Nat.le_of_lt (List.rel_of_pairwise_cons hp hm)

theorem mem_leaders : a ∈ leaders reaches ↔ a < reaches.length ∧ leader reaches a = a := by
  simp [leaders]

theorem leader_mem_leaders (hc : Closed reaches) (ha : a < reaches.length) :
    leader reaches a ∈ leaders reaches :=
  have hm := hc.leader_mem_group ha
  mem_leaders.mpr ⟨lt_of_mem_group hm, hc.leader_eq_of_mem hm⟩

theorem mem_group_leader (hc : Closed reaches) (ha : a ∈ leaders reaches)
    (hb : b ∈ leaders reaches) : a ∈ group reaches b ↔ a = b := by
  have ⟨_, ha⟩ := mem_leaders.mp ha
  have ⟨hlt, hb⟩ := mem_leaders.mp hb
  constructor
  · exact fun h => ha.symm.trans ((hc.leader_eq_of_mem h).trans hb)
  · rintro rfl
    exact hc.mem_group_self hlt

variable {taken : List Nat}

theorem isReady_leader (hc : Closed reaches) (hs : Saturated reaches taken)
    (ha : a < reaches.length) (h : IsReady reaches taken a) :
    IsReady reaches taken (leader reaches a) := by
  have hm := hc.leader_mem_group ha
  have ⟨hal, hla⟩ := hc.mem_group.mp hm
  refine ⟨fun ht => h.missing (hs _ ht a (hc.mem_group_symm hm)), fun b hb => ?_⟩
  exact (h.taken b (hc.trans hal hb)).imp_right (hc.trans · hal)

end Reaches.Closed

namespace Dependencies

open Reaches Relation

variable {g : Dependencies} {a b : Nat} {taken : List Nat}

theorem InRange.closed_reaches (hg : g.InRange) : Closed g.reaches where
  lt h := by
    have ⟨ha, h⟩ := (leads_iff hg).mp h
    exact length_reaches ▸ hg.lt_of_chain ha h
  refl ha := (leads_iff hg).mpr ⟨length_reaches ▸ ha, .refl⟩
  trans h₁ h₂ := by
    have ⟨ha, h₁⟩ := (leads_iff hg).mp h₁
    have ⟨_, h₂⟩ := (leads_iff hg).mp h₂
    exact (leads_iff hg).mpr ⟨ha, h₁.trans h₂⟩

theorem InRange.leads (hg : g.InRange) (h : g.DependsOn a b) : leads g.reaches a b :=
  (leads_iff hg).mpr ⟨(hg a b h).left, .single h⟩

theorem InRange.mem_between (hg : g.InRange) :
    (a, b) ∈ g.between g.reaches ↔
      a ≠ b ∧ ∃ x y, g.DependsOn x y ∧ leader g.reaches x = a ∧ leader g.reaches y = b := by
  have hl {x : Nat} (hx : x < g.size) :
      ((List.range g.size).map (leader g.reaches))[x]?.getD x = leader g.reaches x := by
    simp [hx]
  simp only [between, mem_foldl_insertNew, List.not_mem_nil, false_or, List.mem_filter,
    List.mem_map, Prod.mk.injEq, bne_iff_ne, ne_eq]
  constructor
  · rintro ⟨⟨⟨x, y⟩, he, hx, hy⟩, hne⟩
    have ⟨hxl, hyl⟩ := hg x y he
    exact ⟨hne, x, y, he, hl hxl ▸ hx, hl hyl ▸ hy⟩
  · rintro ⟨hne, x, y, he, hx, hy⟩
    have ⟨hxl, hyl⟩ := hg x y he
    exact ⟨⟨(x, y), he, (hl hxl).trans hx, (hl hyl).trans hy⟩, hne⟩

theorem nodup_between : (g.between g.reaches).Nodup :=
  nodup_foldl_insertNew List.nodup_nil

theorem InRange.mem_leaders_of_mem_between (hg : g.InRange) (h : (a, b) ∈ g.between g.reaches) :
    b ∈ leaders g.reaches := by
  have ⟨_, x, y, he, _, hy⟩ := hg.mem_between.mp h
  exact hy ▸ hg.closed_reaches.leader_mem_leaders (length_reaches ▸ (hg x y he).right)

-- With a place all has been taken that it depends on, and its whole group.
structure Settled (g : Dependencies) (taken : List Nat) : Prop where
  saturated : Saturated g.reaches taken
  closed    : ∀ x ∈ taken, ∀ y, g.DependsOn x y → y ∈ taken

def unmet (g : Dependencies) (taken : List Nat) (a : Nat) : Nat :=
  (g.between g.reaches).countP fun e => e.1 = a ∧ e.2 ∉ taken

theorem unmet_eq_zero_iff :
    g.unmet taken a = 0 ↔ ∀ b, (a, b) ∈ g.between g.reaches → b ∈ taken := by
  simp only [unmet, List.countP_eq_zero, decide_eq_true_eq, not_and, not_not, Prod.forall]
  exact ⟨fun h b hb => h a b hb rfl, fun h x b hb hx => h b (hx ▸ hb)⟩

namespace Settled

theorem nil : g.Settled [] where
  saturated := by simp [Saturated]
  closed    := by simp

variable (hg : g.InRange)
include hg

theorem mem_of_leader_mem (hs : g.Settled taken) (ha : a < g.size)
    (h : leader g.reaches a ∈ taken) : a ∈ taken := by
  have hc := hg.closed_reaches
  have hm := hc.leader_mem_group (length_reaches (g := g) ▸ ha)
  exact hs.saturated _ h a (hc.mem_group_symm hm)

theorem mem_or_leads_of_chain (hs : g.Settled taken) (ha : a ∈ leaders g.reaches)
    (h₀ : g.unmet taken a = 0) (h : ReflTransGen g.DependsOn a b) :
    b ∈ taken ∨ Reaches.leads g.reaches b a := by
  have hc := hg.closed_reaches
  have ⟨hlt, hl⟩ := Closed.mem_leaders.mp ha
  -- The chain stays in the group of `a` until it enters a group that has been taken.
  induction h
  case refl => exact .inr (hc.refl hlt)
  case tail x b hx hd ih =>
    rcases ih with ht | hxa
    · exact .inl (hs.closed x ht b hd)
    · have hax : Reaches.leads g.reaches a x := (leads_iff hg).mpr ⟨length_reaches ▸ hlt, hx⟩
      have hxl : leader g.reaches x = a :=
        (hc.leader_eq_of_mem (hc.mem_group.mpr ⟨hax, hxa⟩)).trans hl
      have hb := (hg x b hd).right
      have hbm := hc.leader_mem_group (length_reaches (g := g) ▸ hb)
      by_cases hbl : leader g.reaches b = a
      · exact .inr (hc.mem_group.mp (hbl ▸ hbm)).left
      · have hm := hg.mem_between.mpr ⟨Ne.symm hbl, x, b, hd, hxl, rfl⟩
        exact .inl (hs.mem_of_leader_mem hg hb (unmet_eq_zero_iff.mp h₀ _ hm))

theorem isReady_iff (hs : g.Settled taken) (ha : a ∈ leaders g.reaches) (hn : a ∉ taken) :
    IsReady g.reaches taken a ↔ g.unmet taken a = 0 := by
  have hc := hg.closed_reaches
  have ⟨_, hl⟩ := Closed.mem_leaders.mp ha
  constructor
  · intro hr
    refine unmet_eq_zero_iff.mpr fun b hb => ?_
    have ⟨hne, x, y, hd, hx, hy⟩ := hg.mem_between.mp hb
    have ⟨hxl, hyl⟩ := hg x y hd
    have hxm := hc.leader_mem_group (length_reaches (g := g) ▸ hxl)
    have hym := hc.leader_mem_group (length_reaches (g := g) ▸ hyl)
    have hay := hc.trans (hc.mem_group.mp (hx ▸ hxm)).right (hg.leads hd)
    rcases hr.taken y hay with ht | hya
    · exact hy ▸ hs.saturated y ht _ hym
    · have := hc.leader_eq_of_mem (hc.mem_group.mpr ⟨hay, hya⟩)
      exact absurd (hl.symm.trans (this.symm.trans hy)) hne
  · intro h₀
    refine ⟨hn, fun b hb => ?_⟩
    exact hs.mem_or_leads_of_chain hg ha h₀ ((leads_iff hg).mp hb).right

theorem append_group (hs : g.Settled taken) (hr : IsReady g.reaches taken a) :
    g.Settled (taken ++ group g.reaches a) where
  saturated := hg.closed_reaches.saturated_append_group hs.saturated
  closed := by
    intro x hx y hd
    have hc := hg.closed_reaches
    cases List.mem_append.mp hx
    case inl hx => exact List.mem_append_left _ (hs.closed x hx y hd)
    case inr hx =>
      have hay := hc.trans (hc.mem_group.mp hx).left (hg.leads hd)
      rcases hr.taken y hay with ht | hya
      · exact List.mem_append_left _ ht
      · exact List.mem_append_right _ (hc.mem_group.mpr ⟨hay, hya⟩)

end Settled

theorem InRange.unmet_append_group (hg : g.InRange) (hb : b ∈ leaders g.reaches)
    (hn : b ∉ taken) (a : Nat) :
    g.unmet (taken ++ group g.reaches b) a =
      if (a, b) ∈ g.between g.reaches then g.unmet taken a - 1 else g.unmet taken a := by
  have hc := hg.closed_reaches
  have hm : ∀ e ∈ g.between g.reaches, e.2 ∈ group g.reaches b ↔ e.2 = b := fun e he =>
    hc.mem_group_leader (hg.mem_leaders_of_mem_between he) hb
  split
  case isFalse he =>
    refine List.countP_congr fun e hm' => ?_
    have hne : e.1 = a → e.2 ≠ b := fun h₁ h₂ => he (h₁ ▸ h₂ ▸ hm')
    simp only [List.mem_append, hm e hm', not_or, decide_eq_true_eq]
    exact ⟨fun h => ⟨h.1, h.2.1⟩, fun h => ⟨h.1, h.2, hne h.1⟩⟩
  case isTrue he =>
    -- The pair is listed only once, so exactly one group less is waited for.
    have hp := List.perm_cons_erase he
    rw [unmet, unmet, hp.countP_eq, hp.countP_eq, List.countP_cons, List.countP_cons]
    have hg' : b ∈ group g.reaches b := (hm _ he).mpr rfl
    simp only [List.mem_append, hg', or_true, not_true, and_false, decide_false, hn,
      not_false_eq_true, and_true, decide_true, if_true, Nat.add_sub_cancel]
    refine List.countP_congr fun e hm' => ?_
    have ⟨hne, hm'⟩ := (nodup_between.mem_erase_iff).mp hm'
    have hne : e.1 = a → e.2 ≠ b := fun h₁ h₂ => hne (Prod.ext h₁ h₂)
    simp only [hm e hm', not_or, decide_eq_true_eq]
    exact ⟨fun h => ⟨h.1, h.2.1⟩, fun h => ⟨h.1, h.2, hne h.1⟩⟩

end Dependencies

namespace Agenda

open Dependencies Reaches

-- An agenda for those groups, where `unmet` says how many others each of them waits for.
structure Lists (agenda : Agenda) (leaders : List Nat) (unmet : Nat → Nat) : Prop where
  perm    : (agenda.ready ++ agenda.waiting.map (·.1)).Perm leaders
  ready   : ∀ a ∈ agenda.ready, unmet a = 0
  waiting : ∀ e ∈ agenda.waiting, e.2 = unmet e.1 ∧ e.2 ≠ 0

open scoped List in
theorem lists_sort {ready : List Nat} {counted : List (Nat × Nat)} {leaders : List Nat}
    {unmet : Nat → Nat} (hp : (ready ++ counted.map (·.1)).Perm leaders)
    (hr : ∀ a ∈ ready, unmet a = 0) (hc : ∀ e ∈ counted, e.2 = unmet e.1) :
    (sort ready counted).Lists leaders unmet where
  perm := by
    have hsplit : counted.filter (·.2 == 0) ++ counted.filter (·.2 != 0) ~ counted :=
      List.filter_append_perm ..
    have := hsplit.map (·.1)
    rw [List.map_append] at this
    rw [sort, List.append_assoc]
    exact (this.append_left ready).trans hp
  ready := by
    intro a ha
    cases List.mem_append.mp ha
    case inl ha => exact hr a ha
    case inr ha =>
      have ⟨e, he, hea⟩ := List.mem_map.mp ha
      have ⟨he, h₀⟩ := List.mem_filter.mp he
      exact hea ▸ (hc e he).symm.trans (by simpa using h₀)
  waiting := by
    intro e he
    have ⟨he, h₀⟩ := List.mem_filter.mp he
    exact ⟨hc e he, by simpa using h₀⟩

variable {g : Dependencies} {agenda : Agenda} {taken : List Nat} {a b : Nat}

def rest (g : Dependencies) (taken : List Nat) : List Nat :=
  (leaders g.reaches).filter (· ∉ taken)

theorem mem_rest : a ∈ rest g taken ↔ a ∈ leaders g.reaches ∧ a ∉ taken := by
  simp [rest]

theorem erase_rest (hg : g.InRange) (hb : b ∈ leaders g.reaches) :
    (rest g taken).erase b = rest g (taken ++ group g.reaches b) := by
  have hn : (leaders g.reaches).Nodup := List.nodup_range.filter _
  rw [rest, (hn.filter _).erase_eq_filter, List.filter_filter, rest]
  refine List.filter_congr fun a ha => ?_
  simp [hg.closed_reaches.mem_group_leader ha hb, and_comm, bne, beq_eq_decide]

theorem lists_ofLeaders :
    (ofLeaders (g.between g.reaches) (leaders g.reaches)).Lists (rest g []) (g.unmet []) := by
  refine lists_sort ?perm (by simp) ?counted
  case perm => simp [rest, Function.comp_def]
  case counted =>
    intro e he
    have ⟨a, _, he⟩ := List.mem_map.mp he
    subst he
    exact List.countP_congr fun _ _ => by simp

theorem Lists.mem_rest_of_mem_ready {unmet : Nat → Nat} (hl : agenda.Lists (rest g taken) unmet)
    (hb : b ∈ agenda.ready) : b ∈ leaders g.reaches ∧ b ∉ taken :=
  mem_rest.mp (hl.perm.mem_iff.mp (List.mem_append_left _ hb))

theorem Lists.release (hg : g.InRange) (hl : agenda.Lists (rest g taken) (g.unmet taken))
    (hb : b ∈ agenda.ready) :
    (agenda.release (g.between g.reaches) b).Lists (rest g (taken ++ group g.reaches b))
      (g.unmet (taken ++ group g.reaches b)) := by
  have ⟨hbl, hbt⟩ := hl.mem_rest_of_mem_ready hb
  have hu := hg.unmet_append_group hbl hbt
  refine lists_sort ?perm ?ready ?counted
  case perm =>
    have := hl.perm.erase b
    rw [List.erase_append_left _ hb, erase_rest hg hbl] at this
    rwa [List.map_map]
  case ready =>
    intro a ha
    have h₀ := hl.ready a (List.mem_of_mem_erase ha)
    rw [hu, h₀]
    split <;> rfl
  case counted =>
    intro e he
    have ⟨e', he', heq⟩ := List.mem_map.mp he
    subst heq
    simp only [hu, (hl.waiting e' he').left]

theorem Lists.leader_mem_ready (hg : g.InRange) (hs : g.Settled taken)
    (hl : agenda.Lists (rest g taken) (g.unmet taken)) (ha : a < g.reaches.length)
    (hr : IsReady g.reaches taken a) : leader g.reaches a ∈ agenda.ready := by
  have hc := hg.closed_reaches
  have hr := hc.isReady_leader hs.saturated ha hr
  have hm := hc.leader_mem_leaders ha
  cases List.mem_append.mp (hl.perm.mem_iff.mpr (mem_rest.mpr ⟨hm, hr.missing⟩))
  case inl h => exact h
  case inr h =>
    have ⟨e, he, hea⟩ := List.mem_map.mp h
    have ⟨hu, h₀⟩ := hl.waiting e he
    exact absurd (hu.trans (hea ▸ (hs.isReady_iff hg hm hr.missing).mp hr)) h₀

theorem Lists.next (hg : g.InRange) (hs : g.Settled taken)
    (hl : agenda.Lists (rest g taken) (g.unmet taken)) (hb : b ∈ agenda.ready)
    (hmin : ∀ a ∈ agenda.ready, b ≤ a) : Next g.reaches taken b := by
  have hc := hg.closed_reaches
  have ⟨hbl, hbt⟩ := hl.mem_rest_of_mem_ready hb
  have hlt := (Closed.mem_leaders.mp hbl).left
  refine ⟨hlt, (hs.isReady_iff hg hbl hbt).mpr (hl.ready b hb), fun a ha hr => ?_⟩
  have halt := Nat.lt_trans ha hlt
  have hle := hmin _ (hl.leader_mem_ready hg hs halt hr)
  have := hc.leader_le halt
  omega

theorem Lists.done (hg : g.InRange) (hs : g.Settled taken)
    (hl : agenda.Lists (rest g taken) (g.unmet taken)) (h : agenda.ready = []) :
    ∀ a < g.reaches.length, a ∈ taken := by
  intro a ha
  by_contra hn
  have ⟨b, hb, hr⟩ := hg.closed_reaches.exists_ready ⟨a, mem_missing.mpr ⟨ha, hn⟩⟩
  have := hl.leader_mem_ready hg hs hb hr
  simp [h] at this

theorem Lists.taking_run {fuel : Nat} (hg : g.InRange) (hs : g.Settled taken)
    (hl : agenda.Lists (rest g taken) (g.unmet taken)) (hf : (rest g taken).length ≤ fuel) :
    Taking g.reaches taken ((agenda.run (g.between g.reaches) fuel).map (group g.reaches)) := by
  -- There is a unit of fuel for each group that is left, and a step uses up one of each.
  induction fuel generalizing agenda taken
  case zero =>
    have hlen := hl.perm.length_eq
    rw [List.length_append] at hlen
    exact .done (hl.done hg hs (List.eq_nil_of_length_eq_zero (by omega)))
  case succ fuel ih =>
    rw [run]
    split
    case h_1 h => exact .done (hl.done hg hs (List.min?_eq_none_iff.mp h))
    case h_2 b h =>
      have ⟨hb, hmin⟩ := List.min?_eq_some_iff.mp h
      have hn := hl.next hg hs hb hmin
      have hm := hl.mem_rest_of_mem_ready hb
      have hlen := List.length_erase_of_mem (mem_rest.mpr hm)
      rw [erase_rest hg hm.left] at hlen
      exact .take hn (ih (hs.append_group hg hn.ready) (hl.release hg hb) (by omega))

end Agenda

namespace Dependencies

open Reaches

variable {g : Dependencies}

theorem InRange.taking_groups (hg : g.InRange) : Taking g.reaches [] g.groups := by
  refine Agenda.lists_ofLeaders.taking_run hg .nil ?_
  simp [Agenda.rest]

theorem InRange.groups_flatten_perm (hg : g.InRange) :
    g.groups.flatten.Perm (List.range g.size) := by
  have ht := hg.taking_groups
  have hn := ht.nodup_flatten hg.closed_reaches Settled.nil.saturated
  apply (List.perm_ext_iff_of_nodup hn List.nodup_range).mpr
  intro a
  rw [List.mem_range, ← length_reaches]
  exact ⟨ht.lt_of_mem_flatten, fun ha => ht.mem_flatten ha List.not_mem_nil⟩

end Dependencies
end Relational
