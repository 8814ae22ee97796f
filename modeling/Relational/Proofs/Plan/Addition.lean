import Relational.Proofs.Plan.Correspondence
import Relational.Proofs.Plan.Insertion
import Relational.Proofs.Plan.Resolution

namespace Relational

open List (Forall₂)

variable {tables joins joins' : List Table} {es : List Declaration} {t : Table}

theorem getElem?_makeRoom {α : Type} (before after : List α) (a : α) (place : Nat) :
    (before ++ a :: after)[makeRoom before.length place]? = (before ++ after)[place]? := by
  unfold makeRoom
  split
  case isTrue h => rw [List.getElem?_append_left h, List.getElem?_append_left h]
  case isFalse h =>
    rw [List.getElem?_append_right (by omega), List.getElem?_append_right (by omega),
      Nat.sub_add_comm (by omega), List.getElem?_cons_succ]

theorem joinTable_append {left right : Endpoint}
    (hn : Text.lowercase (joinTable (lowerNames (tables ++ joins)) left right).name ≠
      Text.lowercase t.name) :
    joinTable (lowerNames (tables ++ [t] ++ joins)) left right =
      joinTable (lowerNames (tables ++ joins)) left right := by
  have hs : lowerNames (tables ++ joins) ⊆ lowerNames (tables ++ [t] ++ joins) :=
    List.map_subset _ (by simp)
  have hf : Text.lowercase (joinTable (lowerNames (tables ++ joins)) left right).name ∉
      lowerNames (tables ++ [t] ++ joins) := by
    have hf : Text.lowercase (joinTable (lowerNames (tables ++ joins)) left right).name ∉
        lowerNames (tables ++ joins) := leastFree_joinTable_name.key_not_mem
    generalize joinTable (lowerNames (tables ++ joins)) left right = join at hf hn ⊢
    simp only [lowerNames, List.map_append, List.mem_append, not_or] at hf ⊢
    exact ⟨⟨hf.left, mt List.mem_singleton.mp hn⟩, hf.right⟩
  have he := Text.freeName_lowercase_mono hs hf
  simp only [joinTable, he]

namespace Synthesized

theorem append_table (h : Synthesized tables es joins)
    (hn : Text.lowercase t.name ∉ lowerNames joins) : Synthesized (tables ++ [t]) es joins := by
  induction h
  case nil => exact .nil
  case snoc es joins e left right _ hl hr ih =>
    rw [lowerNames, List.map_append, List.mem_append, not_or] at hn
    have hj : joinTable (lowerNames (tables ++ [t] ++ joins)) left right =
        joinTable (lowerNames (tables ++ joins)) left right :=
      joinTable_append fun he => hn.right (List.mem_singleton.mpr he.symm)
    exact hj ▸ .snoc (ih hn.left) hl.append hr.append

theorem unique (hn : (tables.map (·.name)).Nodup) (h : Synthesized tables es joins)
    (h' : Synthesized tables es joins') : joins = joins' := by
  have hlen : joins.length = joins'.length := h.length_eq.symm.trans h'.length_eq
  have htake : ∀ i ≤ joins.length, joins.take i = joins'.take i := by
    intro i hi
    induction i
    case zero => rfl
    case succ i ih =>
      have ih := ih (Nat.le_of_lt hi)
      have he := List.getElem?_eq_getElem (h.length_eq ▸ hi)
      have ⟨left, right, hl, hr, hj⟩ := h.getElem? he
      have ⟨left', right', hl', hr', hj'⟩ := h'.getElem? he
      rw [hl'.eq hn hl, hr'.eq hn hr, ← ih, ← hj] at hj'
      rw [List.take_add_one, List.take_add_one, ih, hj']
  have := htake joins.length (Nat.le_refl _)
  rwa [List.take_length, hlen, List.take_length] at this

end Synthesized

-- Plans of a schema and of the same schema with another table, whose name is not that of a join
-- table either.
structure Plan.Extends (t : Table) (s : Schema) (d : Demand) (p : Plan) (s' : Schema) (d' : Demand)
    (p' : Plan) : Prop where
  meets           : p.Meets s d
  meets'          : p'.Meets s' d'
  tables          : s'.tables = s.tables ++ [t]
  noRelationships : t.relationships = []
  nodup           : (s'.tables.map (·.name)).Nodup
  fresh           : Text.lowercase t.name ∉ lowerNames p.synthesized

theorem declarations_append (h : t.relationships = []) :
    declarations (tables ++ [t]) = declarations tables := by
  simp [declarations, h]

theorem Declaration.Resolves.append {e : Declaration} {more : List Table}
    (h : e.Resolves tables) : e.Resolves (tables ++ more) where
  left :=
    have ⟨_, hp⟩ := h.left
    ⟨_, hp.append⟩
  right :=
    have ⟨_, hp⟩ := h.right
    ⟨_, hp.append⟩
  through t hk ht :=
    have ⟨⟨_, hl⟩, _, hr⟩ := h.through t hk ht
    ⟨⟨_, hl.append⟩, _, hr.append⟩

namespace Plan.Extends

variable {s s' : Schema} {d d' : Demand} {p p' : Plan}

theorem declarations_eq (h : Extends t s d p s' d' p') : s'.declarations = s.declarations := by
  rw [Schema.declarations, h.tables, declarations_append h.noRelationships]
  rfl

theorem joins_eq (h : Extends t s d p s' d' p') : s'.joins = s.joins := by
  rw [Schema.joins, h.declarations_eq]
  rfl

theorem synthesized_eq (h : Extends t s d p s' d' p') : p'.synthesized = p.synthesized := by
  have hs := h.meets.synthesized_joins.append_table h.fresh
  have hs' := h.meets'.synthesized_joins
  rw [h.joins_eq] at hs'
  rw [← h.tables] at hs
  exact hs'.unique h.nodup hs

theorem map_key_eq (h : Extends t s d p s' d' p') :
    d'.keys.map (·.key) = d.keys.map (·.key) := by
  have hj := h.synthesized_eq
  rw [h.meets.synthesized, h.meets'.synthesized] at hj
  have hk' := h.meets'.accounts.keys
  rw [h.declarations_eq, hj] at hk'
  exact hk'.trans h.meets.accounts.keys.symm

theorem getElem?_declared (h : Extends t s d p s' d' p') (place : Nat) :
    (p'.declared s')[makeRoom s.tables.length place]? = (p.declared s)[place]? := by
  rw [declared, h.tables, h.synthesized_eq, List.append_assoc]
  exact getElem?_makeRoom ..

theorem length_declared (h : Extends t s d p s' d' p') :
    (p'.declared s').length = (p.declared s).length + 1 := by
  simp [declared, h.tables, h.synthesized_eq]
  omega

theorem matches_keys (h : Extends t s d p s' d' p') :
    Forall₂ (PlacedKey.Matches (makeRoom s.tables.length) (· = ·)) d.keys d'.keys := by
  have hk : Forall₂ (· = ·) (d.keys.map (·.key)) (d'.keys.map (·.key)) := by
    rw [List.forall₂_eq_eq_eq, h.map_key_eq]
  rw [List.forall₂_map_left_iff, List.forall₂_map_right_iff] at hk
  have hk := (List.forall₂_and_left _ _).mpr ⟨h.meets.accounts.fits, hk⟩
  have hk := (List.forall₂_and_left _ _).mpr ⟨h.meets'.accounts.fits, hk.flip⟩
  refine hk.flip.imp fun k k' ⟨hf', hf, hk⟩ => ?_
  have hn' := h.meets'.nodup_names h.nodup
  have moved {place : Nat} {name : String} (hp : Named (p.declared s) place name) :
      Named (p'.declared s') (makeRoom s.tables.length place) name := by
    rwa [Named, h.getElem?_declared]
  obtain ⟨ho, ht⟩ := hf.named
  obtain ⟨ho', ht'⟩ := hf'.named
  rw [← h.meets.declared_eq] at ho ht
  rw [← h.meets'.declared_eq] at ho' ht'
  rw [← hk] at ho' ht'
  exact ⟨ho'.eq hn' (moved ho), ht'.eq hn' (moved ht), hk⟩

end Plan.Extends

end Relational
