import Relational.Proofs.Plan.Emission

namespace Relational

open Relation (ReflTransGen)

def makeRoom (n a : Nat) : Nat :=
  if a < n then a else a + 1

section

variable {n size a b : Nat}

theorem makeRoom_strictMono (n : Nat) : StrictMono (makeRoom n) := by
  intro a b hab
  unfold makeRoom
  split <;> split <;> omega

theorem makeRoom_injective (n : Nat) : (makeRoom n).Injective :=
  (makeRoom_strictMono n).injective

theorem makeRoom_ne : makeRoom n a ≠ n := by
  unfold makeRoom
  split <;> omega

theorem makeRoom_lt (h : a < size) : makeRoom n a < size + 1 := by
  unfold makeRoom
  split <;> omega

theorem exists_makeRoom (hn : n ≤ size) (hb : b < size + 1) (hne : b ≠ n) :
    ∃ a < size, makeRoom n a = b := by
  rcases Nat.lt_or_gt_of_ne hne with hlt | hgt
  · exact ⟨b, by omega, if_pos hlt⟩
  · refine ⟨b - 1, by omega, ?_⟩
    rw [makeRoom, if_neg (by omega)]
    omega

end

variable {refers : Nat → Nat → Prop} {n size a b : Nat} {places there there' others : List Nat}
variable {groups : List (List Nat)}

abbrev Apart (refers : Nat → Nat → Prop) (n : Nat) : Nat → Nat → Prop :=
  Relation.Map refers (makeRoom n) (makeRoom n)

theorem apart_makeRoom_iff :
    Apart refers n (makeRoom n a) b ↔ ∃ c, refers a c ∧ makeRoom n c = b := by
  constructor
  · rintro ⟨a', c, h, ha, hc⟩
    exact ⟨c, makeRoom_injective n ha ▸ h, hc⟩
  · rintro ⟨c, h, hc⟩
    exact ⟨a, c, h, rfl, hc⟩

theorem reaches_makeRoom_iff :
    ReflTransGen (Apart refers n) (makeRoom n a) b ↔
      ∃ c, ReflTransGen refers a c ∧ makeRoom n c = b := by
  constructor
  · intro h
    induction h
    case refl => exact ⟨a, .refl, rfl⟩
    case tail x b _ hxb ih =>
      obtain ⟨c, hc, rfl⟩ := ih
      have ⟨e, hce, he⟩ := apart_makeRoom_iff.mp hxb
      exact ⟨e, hc.tail hce, he⟩
  · rintro ⟨c, h, rfl⟩
    exact h.lift (makeRoom n) fun x y hxy => ⟨x, y, hxy, rfl, rfl⟩

theorem reaches_makeRoom :
    ReflTransGen (Apart refers n) (makeRoom n a) (makeRoom n b) ↔ ReflTransGen refers a b := by
  rw [reaches_makeRoom_iff]
  exact ⟨fun ⟨_, h, he⟩ => makeRoom_injective n he ▸ h, fun h => ⟨b, h, rfl⟩⟩

theorem eq_of_reaches_room (h : ReflTransGen (Apart refers n) n b) : b = n := by
  rcases h.cases_head with h | ⟨_, ⟨a, _, _, ha, _⟩, _⟩
  · exact h.symm
  · exact absurd ha makeRoom_ne

section

variable (hn : n ≤ size)

include hn in
theorem isComponent_makeRoom :
    IsComponent (Apart refers n) (size + 1) (places.map (makeRoom n)) ↔
      IsComponent refers size places := by
  have mem {a : Nat} : makeRoom n a ∈ places.map (makeRoom n) ↔ a ∈ places :=
    List.mem_map_of_injective (makeRoom_injective n)
  constructor
  · intro h
    constructor
    case nonempty  => exact mt List.map_eq_nil_iff.mpr h.nonempty
    case ascending =>
      have hp := List.pairwise_map.mp h.ascending
      exact hp.imp fun hab => (makeRoom_strictMono n).lt_iff_lt.mp hab
    case lt =>
      intro a ha
      have := h.lt _ (mem.mpr ha)
      unfold makeRoom at this
      split at this <;> omega
    case mem_iff =>
      intro a ha b
      have := h.mem_iff _ (mem.mpr ha) (makeRoom n b)
      rwa [mem, reaches_makeRoom, reaches_makeRoom] at this
  · intro h
    constructor
    case nonempty  => simpa using h.nonempty
    case ascending =>
      exact List.pairwise_map.mpr (h.ascending.imp fun hab => makeRoom_strictMono n hab)
    case lt =>
      intro b hb
      have ⟨a, ha, he⟩ := List.mem_map.mp hb
      exact he ▸ makeRoom_lt (h.lt a ha)
    case mem_iff =>
      intro a' ha' b
      obtain ⟨a, ha, rfl⟩ := List.mem_map.mp ha'
      constructor
      · intro hb'
        obtain ⟨b, hb, rfl⟩ := List.mem_map.mp hb'
        rw [reaches_makeRoom, reaches_makeRoom]
        exact (h.mem_iff a ha b).mp hb
      · intro ⟨hab', hba⟩
        obtain ⟨b, hab, rfl⟩ := reaches_makeRoom_iff.mp hab'
        exact mem.mpr ((h.mem_iff a ha b).mpr ⟨hab, reaches_makeRoom.mp hba⟩)

include hn in
theorem isComponent_room : IsComponent (Apart refers n) (size + 1) [n] := by
  refine ⟨by simp, by simp, ?lt, ?component⟩
  case lt =>
    simp only [List.mem_singleton, forall_eq]
    omega
  case component =>
    simp only [List.mem_singleton, forall_eq]
    exact fun b => ⟨fun hb => hb ▸ ⟨.refl, .refl⟩, fun ⟨h, _⟩ => eq_of_reaches_room h⟩

include hn in
theorem IsComponent.eq_room_or (h : IsComponent (Apart refers n) (size + 1) others) :
    others = [n] ∨ ∃ places : List Nat, others = places.map (makeRoom n) := by
  by_cases hm : n ∈ others
  case pos => exact .inl (h.eq (isComponent_room hn) hm (List.mem_singleton_self n))
  case neg =>
    refine .inr ?_
    have hr : others ∈ {l | ∀ x ∈ l, x ∈ Set.range (makeRoom n)} := by
      intro b hb
      have ⟨a, _, ha⟩ := exists_makeRoom hn (h.lt b hb) fun he => hm (he ▸ hb)
      exact ⟨a, ha⟩
    rw [← Set.range_list_map] at hr
    have ⟨places, hp⟩ := hr
    exact ⟨places, hp.symm⟩

end

def SameThere (n : Nat) (there there' : List Nat) : Prop :=
  ∀ a, a ∈ there ↔ makeRoom n a ∈ there'

theorem SameThere.append (h : SameThere n there there') (places : List Nat) :
    SameThere n (there ++ places) (there' ++ places.map (makeRoom n)) := by
  intro a
  rw [List.mem_append, List.mem_append, h a, List.mem_map_of_injective (makeRoom_injective n)]

theorem SameThere.room (h : SameThere n there there') : SameThere n there (there' ++ [n]) := by
  intro a
  simp [h a, makeRoom_ne]

section

variable (hn : n ≤ size) (hs : SameThere n there there')

include hn hs in
theorem mayFollow_makeRoom :
    MayFollow (Apart refers n) (size + 1) there' (places.map (makeRoom n)) ↔
      MayFollow refers size there places := by
  have mem {a : Nat} : makeRoom n a ∈ places.map (makeRoom n) ↔ a ∈ places :=
    List.mem_map_of_injective (makeRoom_injective n)
  constructor
  · intro h
    refine ⟨(isComponent_makeRoom hn).mp h.component, fun a ha ht => ?_, fun a ha b hab => ?_⟩
    · exact h.fresh _ (mem.mpr ha) ((hs a).mp ht)
    · have := h.ready _ (mem.mpr ha) (makeRoom n b) ⟨a, b, hab, rfl, rfl⟩
      rwa [mem, ← hs b] at this
  · intro h
    refine
      ⟨(isComponent_makeRoom hn).mpr h.component, fun a' ha' ht => ?_, fun a' ha' b' hab' => ?_⟩
    · obtain ⟨a, ha, rfl⟩ := List.mem_map.mp ha'
      exact h.fresh a ha ((hs a).mpr ht)
    · obtain ⟨a, ha, rfl⟩ := List.mem_map.mp ha'
      obtain ⟨b, hab, rfl⟩ := apart_makeRoom_iff.mp hab'
      rw [mem, ← hs b]
      exact h.ready a ha b hab

include hn in
theorem mayFollow_room (ht : n ∉ there') : MayFollow (Apart refers n) (size + 1) there' [n] := by
  refine ⟨isComponent_room hn, by simpa using ht, ?_⟩
  simp only [List.mem_singleton, forall_eq]
  rintro b ⟨a, _, _, ha, _⟩
  exact absurd ha makeRoom_ne

include hn hs in
theorem MayFollow.eq_room_or (h : MayFollow (Apart refers n) (size + 1) there' others) :
    others = [n] ∨
      ∃ places : List Nat,
        others = places.map (makeRoom n) ∧ MayFollow refers size there places := by
  rcases h.component.eq_room_or hn with he | ⟨places, he⟩
  · exact .inl he
  · exact .inr ⟨places, he, (mayFollow_makeRoom hn hs).mp (he ▸ h)⟩

end

namespace Emission

theorem next_makeRoom (hn : n ≤ size) (hs : SameThere n there there')
    (hf : MayFollow refers size there places) (ha : a ∈ places)
    (hle : ∀ others, MayFollow refers size there others → ∀ b ∈ others, a ≤ b)
    (ht : n ∈ there' ∨ a < n)
    (h : Emission (Apart refers n) (size + 1) (there' ++ places.map (makeRoom n)) groups) :
    Emission (Apart refers n) (size + 1) there' (places.map (makeRoom n) :: groups) := by
  refine .next ((mayFollow_makeRoom hn hs).mpr hf)
    ⟨makeRoom n a, List.mem_map_of_mem ha, fun others hf' b' hb' => ?_⟩ h
  rcases hf'.eq_room_or hn hs with rfl | ⟨others, rfl, ho⟩
  case inl =>
    have han : a < n := ht.resolve_left (hf'.fresh n (List.mem_singleton_self n))
    rw [List.mem_singleton.mp hb', makeRoom, if_pos han]
    exact Nat.le_of_lt han
  case inr =>
    obtain ⟨b, hb, rfl⟩ := List.mem_map.mp hb'
    exact (makeRoom_strictMono n).monotone (hle others ho b hb)

theorem shift (hn : n ≤ size) (h : Emission refers size there groups)
    (hs : SameThere n there there') (ht : n ∈ there') :
    Emission (Apart refers n) (size + 1) there' (groups.map (·.map (makeRoom n))) := by
  induction h generalizing there'
  case done there hall =>
    refine .done fun b hb => ?_
    by_cases he : b = n
    case pos => exact he ▸ ht
    case neg =>
      obtain ⟨a, ha, rfl⟩ := exists_makeRoom hn hb he
      exact (hs a).mp (hall a ha)
  case next there places rest hf hleast _ ih =>
    have ⟨a, ha, hle⟩ := hleast
    have h := ih (hs.append places) (List.mem_append_left _ ht)
    exact next_makeRoom hn hs hf ha hle (.inl ht) h

theorem room_first (hn : n ≤ size) (h : Emission refers size there groups)
    (hs : SameThere n there there') (ht : n ∉ there')
    (hle : ∀ places, MayFollow refers size there places → ∀ a ∈ places, n ≤ a) :
    Emission (Apart refers n) (size + 1) there' ([n] :: groups.map (·.map (makeRoom n))) := by
  refine .next (mayFollow_room hn ht) ⟨n, List.mem_singleton_self n, fun others hf b hb => ?_⟩
    (h.shift hn hs.room (by simp))
  rcases hf.eq_room_or hn hs with rfl | ⟨others, rfl, ho⟩
  · exact Nat.le_of_eq (List.mem_singleton.mp hb).symm
  · obtain ⟨a, ha, rfl⟩ := List.mem_map.mp hb
    have := hle others ho a ha
    rw [makeRoom, if_neg (by omega)]
    omega

-- The new place comes on its own somewhere among the others, which follow as they did.
theorem insert (hn : n ≤ size) (h : Emission refers size there groups)
    (hs : SameThere n there there') (ht : n ∉ there') :
    ∃ before after, groups = before ++ after ∧
      Emission (Apart refers n) (size + 1) there'
        (before.map (·.map (makeRoom n)) ++ [n] :: after.map (·.map (makeRoom n))) := by
  have hemission := h
  induction h generalizing there'
  case done there hall =>
    refine ⟨[], [], rfl, hemission.room_first hn hs ht fun places hf a ha => ?_⟩
    exact absurd (hall a (hf.component.lt a ha)) (hf.fresh a ha)
  case next there places rest hf hleast hrest ih =>
    have ⟨a, ha, hle⟩ := hleast
    -- The new place has to wait as long as a smaller one may come next.
    by_cases han : a < n
    case neg =>
      refine ⟨[], places :: rest, rfl, hemission.room_first hn hs ht fun others ho b hb => ?_⟩
      exact Nat.le_trans (Nat.le_of_not_lt han) (hle others ho b hb)
    case pos =>
      have ht' : n ∉ there' ++ places.map (makeRoom n) := by
        simp [ht, makeRoom_ne]
      have ⟨before, after, he, h⟩ := ih (hs.append places) ht' hrest
      exact ⟨places :: before, after, congrArg (places :: ·) he,
        next_makeRoom hn hs hf ha hle (.inr han) h⟩

end Emission

end Relational
