import Relational.Proofs.Plan.Creation

namespace Relational

def Named (tables : List Table) (place : Nat) (name : String) : Prop :=
  tables[place]?.map (·.name) = some name

def Plan.declared (p : Plan) (s : Schema) : List Table :=
  s.tables ++ p.synthesized

def Plan.References (p : Plan) (s : Schema) (a b : Nat) : Prop :=
  a ≠ b ∧ ∃ k ∈ p.keys,
    Named (p.declared s) a k.table ∧ Named (p.declared s) b k.referencedTable

abbrev Plan.Leads (p : Plan) (s : Schema) : Nat → Nat → Prop :=
  Relation.ReflTransGen (p.References s)

theorem Named.eq {tables : List Table} {a b : Nat} {name : String}
    (hn : (tables.map (·.name)).Nodup) (ha : Named tables a name) (hb : Named tables b name) :
    a = b := by
  unfold Named at ha hb
  rw [← List.getElem?_map] at ha hb
  have ⟨hlt, _⟩ := List.getElem?_eq_some_iff.mp ha
  exact (List.getElem?_inj hlt hn).mp (ha.trans hb.symm)

theorem PlacedKey.Fits.named {tables : List Table} {k : PlacedKey} (h : k.Fits tables) :
    Named tables k.owner k.key.table ∧ Named tables k.target k.key.referencedTable := by
  have ⟨t, ht, hn, _⟩ := h.owner
  have ⟨u, hu, hm, _⟩ := h.target
  simp [Named, ht, hu, hn, hm]

namespace Plan.Meets

variable {s : Schema} {d : Demand} {p : Plan} {a b : Nat}

theorem declared_eq (h : p.Meets s d) : p.declared s = s.tables ++ d.synthesized := by
  rw [Plan.declared, h.synthesized]

abbrev graph (_ : p.Meets s d) : Dependencies :=
  d.dependencies (s.tables ++ d.synthesized).length

theorem references_iff (h : p.Meets s d) (hn : (s.tables.map (·.name)).Nodup) :
    p.References s a b ↔ h.graph.DependsOn a b := by
  have hn := h.nodup_names hn
  rw [Demand.dependsOn_iff, Plan.References]
  constructor
  · intro ⟨hne, k, hk, ha, hb⟩
    have ⟨x, hx, hxk⟩ := List.mem_map.mp (h.keys_perm.mem_iff.mp hk)
    have ⟨ho, ht⟩ := (h.accounts.fits x hx).named
    rw [← h.declared_eq, hxk] at ho ht
    exact ⟨x, hx, ho.eq hn ha, ht.eq hn hb, hne⟩
  · rintro ⟨x, hx, rfl, rfl, hne⟩
    have hk := h.keys_perm.mem_iff.mpr (List.mem_map_of_mem hx)
    exact ⟨hne, x.key, hk, h.declared_eq ▸ (h.accounts.fits x hx).named⟩

theorem references_eq (h : p.Meets s d) (hn : (s.tables.map (·.name)).Nodup) :
    p.References s = h.graph.DependsOn := by
  funext a b
  exact propext (h.references_iff hn)

end Plan.Meets
end Relational
