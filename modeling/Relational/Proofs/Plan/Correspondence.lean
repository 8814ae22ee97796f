import Relational.Proofs.Plan.Creation

namespace Relational

open List (Forall₂)

theorem forall₂_foldl_insertNew {α β : Type} [DecidableEq α] [DecidableEq β] {R : α → β → Prop}
    (hr : ∀ {a a' b b'}, R a b → R a' b' → (a = a' ↔ b = b')) {as places : List α}
    {bs places' : List β} (hp : Forall₂ R places places') (h : Forall₂ R as bs) :
    Forall₂ R (as.foldl Dependencies.insertNew places)
      (bs.foldl Dependencies.insertNew places') := by
  have mem {a : α} {b : β} (hab : R a b) {l : List α} {l' : List β} (hl : Forall₂ R l l') :
      a ∈ l ↔ b ∈ l' := by
    induction hl
    case nil => simp
    case cons h _ ih => simp [hr hab h, ih]
  induction h generalizing places places'
  case nil => exact hp
  case cons a b as bs hab _ ih =>
    apply ih
    unfold Dependencies.insertNew
    by_cases ha : a ∈ places
    case pos => rwa [if_pos ha, if_pos ((mem hab hp).mp ha)]
    case neg =>
      rw [if_neg ha, if_neg (mt (mem hab hp).mpr ha)]
      exact List.rel_append hp (.cons hab .nil)

theorem forall₂_flatMap {α β γ : Type} {R : β → γ → Prop} {as : List α} {f : α → List β}
    {g : α → List γ} (h : ∀ a ∈ as, Forall₂ R (f a) (g a)) :
    Forall₂ R (as.flatMap f) (as.flatMap g) := by
  induction as
  case nil => exact .nil
  case cons a as ih =>
    have ⟨ha, has⟩ := List.forall_mem_cons.mp h
    exact List.rel_append ha (ih has)

structure PlacedKey.Matches (move : Nat → Nat) (R : ForeignKey → ForeignKey → Prop)
    (k k' : PlacedKey) : Prop where
  owner  : k'.owner = move k.owner
  target : k'.target = move k.target
  key    : R k.key k'.key

structure Creation.Matches (Q : Table → Table → Prop) (R : ForeignKey → ForeignKey → Prop)
    (c c' : Creation) : Prop where
  table : Q c.table c'.table
  keys  : Forall₂ R c.keys c'.keys

theorem Creation.Matches.eq {c c' : Creation} (h : c.Matches (· = ·) (· = ·) c') : c = c' := by
  have ht := h.table
  have hk := List.forall₂_eq_eq_eq ▸ h.keys
  rcases c with ⟨_, _⟩
  rcases c' with ⟨_, _⟩
  exact congrArg₂ Creation.mk ht hk

variable {move : Nat → Nat} {Q : Table → Table → Prop} {R : ForeignKey → ForeignKey → Prop}
variable {d d' : Demand} {created created' order : List Nat} {tables tables' : List Table}

theorem PlacedKey.Matches.isInline_eq {k k' : PlacedKey} (h : k.Matches move R k')
    (hm : move.Injective) (hc : ∀ place, place ∈ created ↔ move place ∈ created') :
    Demand.isInline created k = Demand.isInline created' k' := by
  rw [Bool.eq_iff_iff]
  simp [Demand.isInline, h.owner, h.target, hm.eq_iff, hc]

namespace Demand

theorem forall₂_filter_keysOf (hm : move.Injective)
    (h : Forall₂ (PlacedKey.Matches move R) d.keys d'.keys) (place : Nat)
    {p p' : PlacedKey → Bool} (hp : ∀ k k', k.Matches move R k' → p k = p' k') :
    Forall₂ R (((d.keysOf place).filter p).map (·.key))
      (((d'.keysOf (move place)).filter p').map (·.key)) := by
  have hk : Forall₂ (PlacedKey.Matches move R) (d.keysOf place) (d'.keysOf (move place)) :=
    List.rel_filter (fun k k' hk => by simp [hk.owner, hm.eq_iff]) h
  have hf : Forall₂ (PlacedKey.Matches move R) ((d.keysOf place).filter p)
      ((d'.keysOf (move place)).filter p') :=
    List.rel_filter (fun k k' hk => by simp [hp k k' hk]) hk
  rw [List.forall₂_map_left_iff, List.forall₂_map_right_iff]
  exact hf.imp fun k k' hk => hk.key

theorem forall₂_creations (hm : move.Injective)
    (h : Forall₂ (PlacedKey.Matches move R) d.keys d'.keys)
    (hq : ∀ place ∈ order, Q (tableAt tables place) (tableAt tables' (move place)))
    (hc : ∀ place, place ∈ created ↔ move place ∈ created') :
    Forall₂ (Creation.Matches Q R) (d.creations tables created order)
      (d'.creations tables' created' (order.map move)) := by
  induction order generalizing created created'
  case nil => exact .nil
  case cons place rest ih =>
    have ⟨hq, hqs⟩ := List.forall_mem_cons.mp hq
    refine .cons ⟨hq, ?keys⟩ (ih hqs fun other => ?created)
    case keys => exact forall₂_filter_keysOf hm h place fun k k' hk => hk.isInline_eq hm hc
    case created => simp [hm.eq_iff, hc]

theorem forall₂_deferred (hm : move.Injective)
    (h : Forall₂ (PlacedKey.Matches move R) d.keys d'.keys)
    (hc : ∀ place, place ∈ created ↔ move place ∈ created') :
    Forall₂ R (d.deferred created order) (d'.deferred created' (order.map move)) := by
  induction order generalizing created created'
  case nil => exact .nil
  case cons place rest ih =>
    refine List.rel_append ?keys (ih fun other => ?created)
    case keys => exact forall₂_filter_keysOf hm h place fun k k' hk => by rw [hk.isInline_eq hm hc]
    case created => simp [hm.eq_iff, hc]

theorem edges_dependencies (hm : move.Injective)
    (h : Forall₂ (PlacedKey.Matches move R) d.keys d'.keys) (size size' : Nat) :
    (d'.dependencies size').edges = (d.dependencies size).edges.map (Prod.map move move) := by
  have hf : Forall₂ (PlacedKey.Matches move R) (d.keys.filter fun k => k.owner != k.target)
      (d'.keys.filter fun k => k.owner != k.target) :=
    List.rel_filter (fun k k' hk => by simp [hk.owner, hk.target, hm.eq_iff]) h
  simp only [dependencies, List.map_map]
  rw [← List.forall₂_eq_eq_eq, List.forall₂_map_left_iff, List.forall₂_map_right_iff]
  exact hf.flip.imp fun k' k hk => by simp [hk.owner, hk.target]

end Demand

end Relational
