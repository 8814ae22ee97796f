import Mathlib.Data.Finset.Card
import Mathlib.Data.Finset.Max
import Mathlib.Data.Finset.Range
import Relational.Proofs.Plan.Reach

namespace Relational.Reaches

structure Closed (reaches : List (List Nat)) : Prop where
  lt    : ∀ {a b}, leads reaches a b → b < reaches.length
  refl  : ∀ {a}, a < reaches.length → leads reaches a a
  trans : ∀ {a b c}, leads reaches a b → leads reaches b c → leads reaches a c

-- All that `a` depends on has been taken, its own group apart.
structure IsReady (reaches : List (List Nat)) (taken : List Nat) (a : Nat) : Prop where
  missing : a ∉ taken
  taken   : ∀ b, leads reaches a b → b ∈ taken ∨ leads reaches b a

structure Next (reaches : List (List Nat)) (taken : List Nat) (a : Nat) : Prop where
  lt    : a < reaches.length
  ready : IsReady reaches taken a
  least : ∀ b < a, ¬IsReady reaches taken b

-- Groups taken one after the other after `taken`, until no place is missing.
inductive Taking (reaches : List (List Nat)) : List Nat → List (List Nat) → Prop
  | done {taken} : (∀ a < reaches.length, a ∈ taken) → Taking reaches taken []
  | take {taken a groups} :
    Next reaches taken a → Taking reaches (taken ++ group reaches a) groups →
    Taking reaches taken (group reaches a :: groups)

def Saturated (reaches : List (List Nat)) (taken : List Nat) : Prop :=
  ∀ a ∈ taken, ∀ b ∈ group reaches a, b ∈ taken

def missing (reaches : List (List Nat)) (taken : List Nat) : Finset Nat :=
  {a ∈ Finset.range reaches.length | a ∉ taken}

variable {reaches : List (List Nat)} {taken : List Nat} {gs : List (List Nat)} {a b c : Nat}

theorem mem_missing : a ∈ missing reaches taken ↔ a < reaches.length ∧ a ∉ taken := by
  simp [missing]

theorem pairwise_group : (group reaches a).Pairwise (· < ·) :=
  List.pairwise_lt_range.filter _

theorem nodup_group : (group reaches a).Nodup :=
  List.nodup_range.filter _

theorem lt_of_mem_group (h : b ∈ group reaches a) : b < reaches.length :=
  List.mem_range.mp (List.mem_filter.mp h).left

namespace Closed

variable (hc : Closed reaches)
include hc

theorem mem_group : b ∈ group reaches a ↔ leads reaches a b ∧ leads reaches b a := by
  simp only [group, List.mem_filter, List.mem_range, Bool.and_eq_true, and_iff_right_iff_imp]
  exact fun h => hc.lt h.left

theorem mem_group_self (ha : a < reaches.length) : a ∈ group reaches a :=
  hc.mem_group.mpr ⟨hc.refl ha, hc.refl ha⟩

theorem mem_group_symm (h : b ∈ group reaches a) : a ∈ group reaches b :=
  hc.mem_group.mpr (hc.mem_group.mp h).symm

theorem mem_group_trans (h₁ : b ∈ group reaches a) (h₂ : c ∈ group reaches b) :
    c ∈ group reaches a := by
  have ⟨hab, hba⟩ := hc.mem_group.mp h₁
  have ⟨hbc, hcb⟩ := hc.mem_group.mp h₂
  exact hc.mem_group.mpr ⟨hc.trans hab hbc, hc.trans hcb hba⟩

theorem exists_ready (hm : (missing reaches taken).Nonempty) :
    ∃ a < reaches.length, IsReady reaches taken a := by
  let reached (a : Nat) : Finset Nat := {b ∈ Finset.range reaches.length | leads reaches a b}
  -- A missing place that leads to as few places as possible is ready: one to which it leads cannot
  -- lead to fewer, so it leads back.
  have ⟨a, ha, hmin⟩ := Finset.exists_min_image _ (fun a => (reached a).card) hm
  have ⟨hlt, hnt⟩ := mem_missing.mp ha
  refine ⟨a, hlt, hnt, fun b hab => ?_⟩
  by_cases hb : b ∈ taken
  case pos => exact .inl hb
  case neg =>
    have hsub : reached b ⊆ reached a := by
      intro c
      simp only [reached, Finset.mem_filter]
      exact And.imp_right (hc.trans hab)
    have hcard := hmin b (mem_missing.mpr ⟨hc.lt hab, hb⟩)
    have heq : reached b = reached a := Finset.eq_of_subset_of_card_le hsub hcard
    have hself : a ∈ reached a := by simp [reached, hlt, hc.refl hlt]
    rw [← heq] at hself
    exact .inr (Finset.mem_filter.mp hself).right

theorem saturated_append_group (hs : Saturated reaches taken) :
    Saturated reaches (taken ++ group reaches a) := by
  intro b hb c hcb
  cases List.mem_append.mp hb
  case inl hb => exact List.mem_append_left _ (hs b hb c hcb)
  case inr hb => exact List.mem_append_right _ (hc.mem_group_trans hb hcb)

end Closed

namespace Taking

theorem lt_of_mem_flatten (h : Taking reaches taken gs) (ha : a ∈ gs.flatten) :
    a < reaches.length := by
  induction h
  case done => contradiction
  case take ih =>
    cases List.mem_append.mp ha
    case inl ha => exact lt_of_mem_group ha
    case inr ha => exact ih ha

theorem mem_flatten (h : Taking reaches taken gs) (ha : a < reaches.length) (hn : a ∉ taken) :
    a ∈ gs.flatten := by
  induction h
  case done hall => exact absurd (hall a ha) hn
  case take b _ _ _ ih =>
    by_cases hb : a ∈ group reaches b
    · exact List.mem_append_left _ hb
    · exact List.mem_append_right _ (ih (by simp [hn, hb]))

theorem not_mem_taken (hc : Closed reaches) (h : Taking reaches taken gs)
    (hs : Saturated reaches taken) (ha : a ∈ gs.flatten) : a ∉ taken := by
  induction h
  case done => contradiction
  case take b _ hn _ ih =>
    cases List.mem_append.mp ha
    case inl ha => exact fun ht => hn.ready.missing (hs a ht b (hc.mem_group_symm ha))
    case inr ha => exact fun ht => ih (hc.saturated_append_group hs) ha (List.mem_append_left _ ht)

theorem nodup_flatten (hc : Closed reaches) (h : Taking reaches taken gs)
    (hs : Saturated reaches taken) : gs.flatten.Nodup := by
  induction h
  case done => exact List.nodup_nil
  case take a _ _ hr ih =>
    have hs := hc.saturated_append_group (a := a) hs
    refine List.Nodup.append nodup_group (ih hs) fun x hx hm => ?_
    exact hr.not_mem_taken hc hs hm (List.mem_append_right _ hx)

end Taking
end Relational.Reaches
