import Mathlib.Data.Sym.Sym2
import Relational.Plan.Demand

namespace Relational

structure Declaration where
  owner : Table
  relationship : Relationship

namespace Declaration

variable (e : Declaration)

def left : String × String :=
  (e.owner.name, e.relationship.foreignKey)

def right : String × String :=
  (e.relationship.relatedTable, e.relationship.relatedForeignKey)

def pair : Sym2 (String × String) :=
  s(e.left, e.right)

def NeedsJoin : Prop :=
  e.relationship.kind = .manyToMany ∧ e.relationship.throughTable = none

instance : Decidable e.NeedsJoin :=
  inferInstanceAs (Decidable (_ ∧ _))

def joinKeys (join : Table) : List ForeignKey :=
  (join.columns.zip [e.left, e.right]).map fun (c, target) =>
    ⟨join.name, c.name, target.1, target.2⟩

-- The keys that a declaration demands, where join tables have been made for those declarations. It
-- shares the join table of its pair, whichever declaration that was made for.
def demanded (made : List (Declaration × Table)) : List ForeignKey :=
  match e.relationship.kind, e.relationship.throughTable with
  | .oneToMany, _ => [⟨e.left.1, e.left.2, e.right.1, e.right.2⟩]
  | .manyToMany, some through =>
    [⟨through, e.left.2, e.left.1, e.left.2⟩, ⟨through, e.right.2, e.right.1, e.right.2⟩]
  | .manyToMany, none =>
    match made.find? fun m => m.1.pair = e.pair with
    | some (first, join) => first.joinKeys join
    | none => []

def keepFirst (kept : List Declaration) (e : Declaration) : List Declaration :=
  if e.NeedsJoin ∧ e.pair ∉ kept.map pair then kept ++ [e] else kept

def firstOfPairs (es : List Declaration) : List Declaration :=
  es.foldl keepFirst []

end Declaration

def declarations (tables : List Table) : List Declaration :=
  tables.flatMap fun t => t.relationships.map (⟨t, ·⟩)

namespace Schema

variable (s : Schema)

def declarations : List Declaration :=
  Relational.declarations s.tables

def joins : List Declaration :=
  Declaration.firstOfPairs s.declarations

end Schema

namespace Declaration

variable {e f : Declaration} {es : List Declaration} {made more : List (Declaration × Table)}

theorem firstOfPairs_append_of_needsJoin (he : e.NeedsJoin)
    (hp : e.pair ∉ (firstOfPairs es).map pair) :
    firstOfPairs (es ++ [e]) = firstOfPairs es ++ [e] := by
  rw [firstOfPairs, List.foldl_append]
  exact if_pos ⟨he, hp⟩

theorem firstOfPairs_append_of_not (h : ¬(e.NeedsJoin ∧ e.pair ∉ (firstOfPairs es).map pair)) :
    firstOfPairs (es ++ [e]) = firstOfPairs es := by
  rw [firstOfPairs, List.foldl_append]
  exact if_neg h

theorem firstOfPairs_append (es : List Declaration) (e : Declaration) :
    (e.NeedsJoin ∧ e.pair ∉ (firstOfPairs es).map pair ∧
      firstOfPairs (es ++ [e]) = firstOfPairs es ++ [e]) ∨
    ((e.NeedsJoin → e.pair ∈ (firstOfPairs es).map pair) ∧
      firstOfPairs (es ++ [e]) = firstOfPairs es) := by
  by_cases h : e.NeedsJoin ∧ e.pair ∉ (firstOfPairs es).map pair
  case pos => exact .inl ⟨h.left, h.right, firstOfPairs_append_of_needsJoin h.left h.right⟩
  case neg => exact .inr ⟨by simpa using h, firstOfPairs_append_of_not h⟩

theorem needsJoin_of_mem_firstOfPairs (h : e ∈ firstOfPairs es) : e ∈ es ∧ e.NeedsJoin := by
  induction es using List.reverseRecOn
  case nil => contradiction
  case append_singleton es f ih =>
    rcases firstOfPairs_append es f with ⟨hf, _, heq⟩ | ⟨_, heq⟩ <;> rw [heq] at h
    · cases List.mem_append.mp h
      case inl h => exact ⟨List.mem_append_left _ (ih h).left, (ih h).right⟩
      case inr h =>
        obtain rfl := List.mem_singleton.mp h
        exact ⟨List.mem_append_right _ h, hf⟩
    · exact ⟨List.mem_append_left _ (ih h).left, (ih h).right⟩

theorem firstOfPairs_sublist (es : List Declaration) : (firstOfPairs es).Sublist es := by
  induction es using List.reverseRecOn
  case nil => exact .slnil
  case append_singleton es f ih =>
    rcases firstOfPairs_append es f with ⟨_, _, heq⟩ | ⟨_, heq⟩ <;> rw [heq]
    · exact ih.append (List.Sublist.refl _)
    · exact ih.trans (List.sublist_append_left ..)

theorem nodup_pairs_firstOfPairs (es : List Declaration) : ((firstOfPairs es).map pair).Nodup := by
  induction es using List.reverseRecOn
  case nil => exact List.nodup_nil
  case append_singleton es f ih =>
    rcases firstOfPairs_append es f with ⟨_, hp, heq⟩ | ⟨_, heq⟩ <;> rw [heq]
    · rw [List.map_append]
      exact ih.append (List.nodup_singleton _) (by simpa using hp)
    · exact ih

theorem pair_mem_firstOfPairs (h : e ∈ es) (he : e.NeedsJoin) :
    e.pair ∈ (firstOfPairs es).map pair := by
  induction es using List.reverseRecOn
  case nil => contradiction
  case append_singleton es f ih =>
    rcases firstOfPairs_append es f with ⟨_, _, heq⟩ | ⟨hf, heq⟩ <;> rw [heq]
    · rw [List.map_append]
      cases List.mem_append.mp h
      case inl h => exact List.mem_append_left _ (ih h)
      case inr h => exact List.mem_append_right _ (List.mem_map_of_mem h)
    · cases List.mem_append.mp h
      case inl h => exact ih h
      case inr h => exact List.mem_singleton.mp h ▸ hf (List.mem_singleton.mp h ▸ he)

theorem demanded_append (h : e.NeedsJoin → e.pair ∈ made.map (·.1.pair)) :
    e.demanded (made ++ more) = e.demanded made := by
  unfold demanded
  split
  case h_1 | h_2 => rfl
  case h_3 hk ht =>
    have ⟨m, hm, heq⟩ := List.mem_map.mp (h ⟨hk, ht⟩)
    cases hf : made.find? fun m => m.1.pair = e.pair
    case none => exact absurd heq (by simpa using List.find?_eq_none.mp hf m hm)
    case some => simp [List.find?_append, hf]

theorem demanded_of_needsJoin (he : e.NeedsJoin) :
    e.demanded made =
      match made.find? fun m => m.1.pair = e.pair with
      | some (first, join) => first.joinKeys join
      | none => [] := by
  simp [demanded, he.left, he.right]

theorem demanded_congr (he : e.NeedsJoin) (hf : f.NeedsJoin) (hp : e.pair = f.pair) :
    e.demanded made = f.demanded made := by
  rw [demanded_of_needsJoin he, demanded_of_needsJoin hf, hp]

end Declaration
end Relational
