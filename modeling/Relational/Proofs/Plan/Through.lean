import Relational.Proofs.Plan.Resolution

namespace Relational

namespace Declaration

variable (e : Declaration)

def GoesThrough (through : String) : Prop :=
  e.relationship.kind = .manyToMany ∧ e.relationship.throughTable = some through

def Carried (through : String) (keys : List ForeignKey) : Prop :=
  ∃ l r, l ≠ r ∧ ⟨through, l, e.left.1, e.left.2⟩ ∈ keys ∧ ⟨through, r, e.right.1, e.right.2⟩ ∈ keys

variable {e} {through : String} {keys : List ForeignKey} {made : List (Declaration × Table)}

theorem GoesThrough.demanded (h : e.GoesThrough through) :
    e.demanded made =
      [⟨through, e.left.2, e.left.1, e.left.2⟩, ⟨through, e.right.2, e.right.1, e.right.2⟩] := by
  simp only [Declaration.demanded, h.left, h.right]

theorem carried_iff (hl : ⟨through, e.left.2, e.left.1, e.left.2⟩ ∈ keys)
    (hr : ⟨through, e.right.2, e.right.1, e.right.2⟩ ∈ keys) :
    e.Carried through keys ↔
      e.left.2 ≠ e.right.2 ∨
        ∃ q ∈ [e.left, e.right], ∃ column, column ≠ e.left.2 ∧
          ⟨through, column, q.1, q.2⟩ ∈ keys := by
  constructor
  case mp =>
    intro ⟨l, r, hne, hkl, hkr⟩
    by_cases heq : l = e.left.2
    case pos => exact .inr ⟨e.right, by simp, r, heq ▸ hne.symm, hkr⟩
    case neg => exact .inr ⟨e.left, by simp, l, heq, hkl⟩
  case mpr =>
    rintro (hne | ⟨q, hq, column, hne, hk⟩)
    case inl => exact ⟨_, _, hne, hl, hr⟩
    case inr =>
      by_cases heq : e.left.2 = e.right.2
      case neg => exact ⟨_, _, heq, hl, hr⟩
      case pos =>
        simp only [List.mem_cons, List.not_mem_nil, or_false] at hq
        rcases hq with rfl | rfl
        · exact ⟨column, _, heq ▸ hne, hk, hr⟩
        · exact ⟨_, column, hne.symm, hl, hk⟩

end Declaration

-- The table that a relationship goes through has the column of each end, and on that a key to the
-- end. So both ends are carried if their columns have different names, even if both are of one
-- table. If not, the two keys are on one column, and it takes a key on another column besides.
theorem Schema.carried_through_iff {s : Schema} {p : Plan} (hp : s.plan = .ok p) {e : Declaration}
    (he : e ∈ s.declarations) {through : String} (ht : e.GoesThrough through) :
    (∀ q ∈ [e.left, e.right],
      HasColumn s.tables through q.2 ∧ HasColumn s.tables q.1 q.2 ∧
        ⟨through, q.2, q.1, q.2⟩ ∈ p.keys) ∧
    (e.Carried through p.keys ↔
      e.left.2 ≠ e.right.2 ∨
        ∃ q ∈ [e.left, e.right], ∃ column, column ≠ e.left.2 ∧
          ⟨through, column, q.1, q.2⟩ ∈ p.keys) := by
  have ⟨_, h⟩ := s.exists_meets hp
  have hk : ∀ k ∈ e.demanded (s.joins.zip p.synthesized), k ∈ p.keys :=
    fun k hk => h.mem_keys.mpr ⟨e, he, hk⟩
  rw [ht.demanded, List.forall_mem_cons, List.forall_mem_singleton] at hk
  have ⟨hl, hr⟩ := hk
  have hres := h.accounts.resolves e he
  have ⟨htl, htr⟩ := hres.through through ht.left ht.right
  refine ⟨?_, Declaration.carried_iff hl hr⟩
  rw [List.forall_mem_cons, List.forall_mem_singleton]
  exact ⟨⟨exists_at_iff.mp htl, exists_at_iff.mp hres.left, hl⟩,
    exists_at_iff.mp htr, exists_at_iff.mp hres.right, hr⟩

theorem carried_through_iff_staff :
    Staff.schema.plan = .ok Staff.plan ∧
    ∃ e ∈ Staff.schema.declarations, e.GoesThrough "role" ∧ e.Carried "role" Staff.plan.keys := by
  have he := List.mem_of_getElem? (l := Staff.schema.declarations) (i := 5) rfl
  have h := Schema.carried_through_iff Staff.plan_eq he ⟨rfl, rfl⟩
  exact ⟨Staff.plan_eq, _, he, ⟨rfl, rfl⟩, h.right.mpr (.inl (by decide))⟩

-- Both sides of a friendship are the same column of a person, so the one key that there is stands
-- for both of them, though the table of friends has a second column.
namespace Friends

def person : Table where
  name := "person"
  columns := [{ name := "id", type := "INT", primaryKey := true }]
  relationships := [⟨.manyToMany, "person", "id", "id", some "friend"⟩]

def friend : Table where
  name := "friend"
  columns := [{ name := "id", type := "INT" }, { name := "friend_id", type := "INT" }]
  joinTable := true

def schema : Schema where
  tables := [person, friend]

theorem exists_plan : ∃ p, schema.plan = .ok p ∧ p.keys = [⟨"friend", "id", "person", "id"⟩] :=
  ⟨_, rfl, rfl⟩

end Friends

theorem not_carried_friends :
    (Friends.schema.tables.map (·.name)).Nodup ∧
    ∃ p, Friends.schema.plan = .ok p ∧
      ∃ e ∈ Friends.schema.declarations, e.GoesThrough "friend" ∧ ¬e.Carried "friend" p.keys := by
  have ⟨p, hp, hk⟩ := Friends.exists_plan
  refine ⟨by decide, p, hp, ⟨Friends.person, _⟩, List.mem_singleton_self _, ⟨rfl, rfl⟩, ?_⟩
  intro ⟨l, r, hne, hl, hr⟩
  simp only [hk, List.mem_singleton, ForeignKey.mk.injEq] at hl hr
  exact hne (hl.right.left.trans hr.right.left.symm)

end Relational
