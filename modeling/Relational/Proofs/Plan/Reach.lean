import Mathlib.Data.List.Nodup
import Mathlib.Data.List.Perm.Subperm
import Mathlib.Logic.Relation
import Relational.Plan.Order

namespace Relational.Dependencies

open Relation

def DependsOn (g : Dependencies) (a b : Nat) : Prop :=
  (a, b) ∈ g.edges

def InRange (g : Dependencies) : Prop :=
  ∀ a b, g.DependsOn a b → a < g.size ∧ b < g.size

variable {g : Dependencies} {a b : Nat} {places more : List Nat}

@[simp]
theorem mem_direct : b ∈ g.direct a ↔ g.DependsOn a b := by
  simp [direct, DependsOn]

theorem InRange.lt_of_chain (hg : g.InRange) (ha : a < g.size) (h : ReflTransGen g.DependsOn a b) :
    b < g.size := by
  induction h
  case refl          => exact ha
  case tail _ _ hd _ => exact (hg _ _ hd).right

section

variable {α : Type} [DecidableEq α] {b : α} {places more : List α}

theorem mem_foldl_insertNew : b ∈ more.foldl insertNew places ↔ b ∈ places ∨ b ∈ more := by
  induction more generalizing places
  case nil => simp
  case cons a more ih =>
    rw [List.foldl_cons, ih]
    by_cases ha : a ∈ places
    · simp only [insertNew, ha, if_true, List.mem_cons]
      constructor
      · exact Or.imp_right .inr
      · rintro (h | rfl | h)
        exacts [.inl h, .inl ha, .inr h]
    · simp [insertNew, ha, or_assoc]

theorem nodup_foldl_insertNew (h : places.Nodup) : (more.foldl insertNew places).Nodup := by
  induction more generalizing places
  case nil => exact h
  case cons a more ih =>
    apply ih
    by_cases ha : a ∈ places
    · simpa [insertNew, ha] using h
    · simpa [insertNew, ha] using List.Nodup.append h (List.nodup_singleton a) (by simpa)

theorem prefix_foldl_insertNew : places <+: more.foldl insertNew places := by
  induction more generalizing places
  case nil => exact List.prefix_rfl
  case cons a more ih =>
    refine List.IsPrefix.trans ?_ ih
    by_cases ha : a ∈ places <;> simp [insertNew, ha]

theorem foldl_insertNew_of_subset (h : more ⊆ places) : more.foldl insertNew places = places := by
  induction more
  case nil => rfl
  case cons a more ih =>
    have ⟨ha, h⟩ := List.cons_subset.mp h
    rw [List.foldl_cons, insertNew, if_pos ha, ih h]

end

theorem mem_of_size_le_length (hn : places.Nodup) (hp : ∀ a ∈ places, a < g.size)
    (hs : g.size ≤ places.length) (hb : b < g.size) : b ∈ places := by
  have hsub : places.Subperm (List.range g.size) :=
    hn.subperm fun a ha => List.mem_range.mpr (hp a ha)
  have hperm := hsub.perm_of_length_le (by simpa using hs)
  exact hperm.mem_iff.mpr (List.mem_range.mpr hb)

theorem mem_of_closed (hc : ∀ a ∈ places, ∀ b, g.DependsOn a b → b ∈ places) (ha : a ∈ places)
    (h : ReflTransGen g.DependsOn a b) : b ∈ places := by
  induction h
  case refl           => exact ha
  case tail _ _ hd ih => exact hc _ ih _ hd

theorem mem_close_iff {fuel : Nat} (hg : g.InRange) (hn : places.Nodup)
    (hp : ∀ a ∈ places, a < g.size) (hf : g.size ≤ places.length + fuel) :
    b ∈ g.close fuel places ↔ ∃ a ∈ places, ReflTransGen g.DependsOn a b := by
  -- The fuel covers the places that are still missing, so it never runs out before nothing is.
  induction fuel generalizing places
  case zero =>
    constructor
    · exact fun hb => ⟨b, hb, .refl⟩
    · intro ⟨a, ha, h⟩
      exact mem_of_size_le_length hn hp hf (hg.lt_of_chain (hp a ha) h)
  case succ fuel ih =>
    rw [close]
    generalize hmore : (places.flatMap g.direct).foldl insertNew places = more
    have hm : ∀ b, b ∈ more ↔ b ∈ places ∨ ∃ a ∈ places, g.DependsOn a b := by
      simp [← hmore, mem_foldl_insertNew]
    have hpre : places <+: more := hmore ▸ prefix_foldl_insertNew
    split
    case isTrue hl =>
      have heq : places = more := hpre.eq_of_length hl.symm
      have hc : ∀ a ∈ places, ∀ b, g.DependsOn a b → b ∈ places := by
        intro a ha b hd
        exact heq ▸ (hm b).mpr (.inr ⟨a, ha, hd⟩)
      constructor
      · exact fun hb => ⟨b, hb, .refl⟩
      · exact fun ⟨a, ha, h⟩ => mem_of_closed hc ha h
    case isFalse hl =>
      have hlt : places.length < more.length := Nat.lt_of_le_of_ne hpre.length_le (Ne.symm hl)
      have hmp : ∀ a ∈ more, a < g.size := by
        intro a ha
        rcases (hm a).mp ha with ha | ⟨c, hc, hd⟩
        · exact hp a ha
        · exact (hg c a hd).right
      rw [ih (hmore ▸ nodup_foldl_insertNew hn) hmp (by omega)]
      constructor
      · intro ⟨a, ha, h⟩
        rcases (hm a).mp ha with ha | ⟨c, hc, hd⟩
        · exact ⟨a, ha, h⟩
        · exact ⟨c, hc, h.head hd⟩
      · exact fun ⟨a, ha, h⟩ => ⟨a, (hm a).mpr (.inl ha), h⟩

theorem mem_reach_iff (hg : g.InRange) (ha : a < g.size) :
    b ∈ g.reach a ↔ ReflTransGen g.DependsOn a b := by
  have hs : g.size ≤ [a].length + g.size := Nat.le_add_left ..
  simp [reach, mem_close_iff hg (List.nodup_singleton a) (by simpa) hs]

@[simp]
theorem length_reaches : g.reaches.length = g.size := by
  simp [reaches]

theorem leads_iff (hg : g.InRange) :
    Reaches.leads g.reaches a b ↔ a < g.size ∧ ReflTransGen g.DependsOn a b := by
  by_cases ha : a < g.size
  case pos => simp [Reaches.leads, reaches, ha, mem_reach_iff hg ha]
  case neg => simp [Reaches.leads, reaches, ha]

end Relational.Dependencies
