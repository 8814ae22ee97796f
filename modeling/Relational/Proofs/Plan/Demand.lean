import Relational.Proofs.Plan.JoinTable
import Relational.Proofs.Plan.Reach

namespace Relational

open Declaration (firstOfPairs)
open Dependencies

theorem getElem?_append_of_eq_some {α : Type} {l more : List α} {i : Nat} {a : α}
    (h : l[i]? = some a) : (l ++ more)[i]? = some a := by
  rw [List.getElem?_append_left (List.getElem?_eq_some_iff.mp h).fst, h]

theorem Endpoint.At.append {tables more : List Table} {e : Endpoint} {names : String × String}
    (h : e.At tables names) : e.At (tables ++ more) names where
  place  := getElem?_append_of_eq_some h.place
  table  := h.table
  column := h.column

structure PlacedKey.Fits (tables : List Table) (k : PlacedKey) : Prop where
  owner  : ∃ t, tables[k.owner]? = some t ∧ t.name = k.key.table ∧ t.hasColumn k.key.column
  target : ∃ t, tables[k.target]? = some t ∧ t.name = k.key.referencedTable ∧
    t.hasColumn k.key.referencedColumn

theorem PlacedKey.Fits.append {tables more : List Table} {k : PlacedKey} (h : k.Fits tables) :
    k.Fits (tables ++ more) where
  owner :=
    have ⟨t, ht, hk⟩ := h.owner
    ⟨t, getElem?_append_of_eq_some ht, hk⟩
  target :=
    have ⟨t, ht, hk⟩ := h.target
    ⟨t, getElem?_append_of_eq_some ht, hk⟩

theorem fits_keyTo {tables : List Table} {e f : Endpoint} {m n : String × String}
    (he : e.At tables m) (hf : f.At tables n) : (e.keyTo f).Fits tables where
  owner  := ⟨e.table, he.place, rfl, he.hasColumn⟩
  target := ⟨f.table, hf.place, rfl, hf.hasColumn⟩

theorem key_keyTo {tables : List Table} {e f : Endpoint} {m n : String × String}
    (he : e.At tables m) (hf : f.At tables n) : (e.keyTo f).key = ⟨m.1, m.2, n.1, n.2⟩ := by
  rw [← he.names_eq, ← hf.names_eq]
  rfl

theorem fits_joinTableKeys {tables : List Table} {place : Nat} {join : Table}
    {left right : Endpoint} {m n : String × String} (hp : tables[place]? = some join)
    (hl : left.At tables m) (hr : right.At tables n) :
    ∀ k ∈ joinTableKeys place join left right, k.Fits tables := by
  intro k hk
  have ⟨⟨c, target⟩, hm, hk⟩ := List.mem_map.mp hk
  have ⟨hc, ht⟩ := List.of_mem_zip hm
  subst hk
  refine ⟨⟨join, hp, rfl, Table.hasColumn_of_mem hc⟩, ?_⟩
  simp only [List.mem_cons, List.not_mem_nil, or_false] at ht
  rcases ht with rfl | rfl
  · exact ⟨target.table, hl.place, rfl, hl.hasColumn⟩
  · exact ⟨target.table, hr.place, rfl, hr.hasColumn⟩

structure Declaration.Resolves (tables : List Table) (e : Declaration) : Prop where
  left    : ∃ p : Endpoint, p.At tables e.left
  right   : ∃ p : Endpoint, p.At tables e.right
  through : ∀ t, e.relationship.kind = .manyToMany → e.relationship.throughTable = some t →
    (∃ p : Endpoint, p.At tables (t, e.left.2)) ∧ ∃ p : Endpoint, p.At tables (t, e.right.2)

namespace Demand

variable {tables : List Table} {d d' : Demand} {e : Declaration} {done : List Declaration}
variable {k : PlacedKey} {ks : List PlacedKey} {left right : Endpoint}

theorem Step.resolves (h : Step tables d e d') : e.Resolves tables := by
  cases h
  case direct hk hl hr         => exact ⟨⟨_, hl⟩, ⟨_, hr⟩, fun _ h _ => by simp [hk] at h⟩
  case join hn hl hr           => exact ⟨⟨_, hl⟩, ⟨_, hr⟩, fun _ _ h => by simp [hn.right] at h⟩
  case through ht hl hr htl htr =>
    refine ⟨⟨_, hl⟩, ⟨_, hr⟩, fun t _ h => ?_⟩
    obtain rfl := Option.some.inj (ht.symm.trans h)
    exact ⟨⟨_, htl⟩, ⟨_, htr⟩⟩

@[simp]
theorem synthesized_addKey : (d.addKey k).synthesized = d.synthesized := by
  unfold addKey
  split <;> rfl

@[simp]
theorem pairs_addKey : (d.addKey k).pairs = d.pairs := by
  unfold addKey
  split <;> rfl

theorem keys_addKey : (d.addKey k).keys = d.keys ∧ k.key ∈ d.keys.map (·.key) ∨
    (d.addKey k).keys = d.keys ++ [k] ∧ k.key ∉ d.keys.map (·.key) := by
  unfold addKey
  split
  case isTrue h => exact .inl ⟨rfl, by simpa using h⟩
  case isFalse h => exact .inr ⟨rfl, by simpa using h⟩

theorem map_key_addKey : (d.addKey k).keys.map (·.key) = insertNew (d.keys.map (·.key)) k.key := by
  rcases keys_addKey (d := d) (k := k) with ⟨heq, hm⟩ | ⟨heq, hm⟩
  · rw [heq, insertNew, if_pos hm]
  · rw [heq, insertNew, if_neg hm, List.map_append]
    rfl

theorem forall_keys_addKey {P : PlacedKey → Prop} (h : ∀ k ∈ d.keys, P k) (hk : P k) :
    ∀ x ∈ (d.addKey k).keys, P x := by
  intro x hx
  rcases keys_addKey (d := d) (k := k) with ⟨heq, _⟩ | ⟨heq, _⟩ <;> rw [heq] at hx
  · exact h x hx
  · cases List.mem_append.mp hx
    case inl hx => exact h x hx
    case inr hx => exact List.mem_singleton.mp hx ▸ hk

structure Adds (tables : List Table) (d : Demand) (ks : List ForeignKey) (d' : Demand) : Prop where
  synthesized : d'.synthesized = d.synthesized
  pairs       : d'.pairs = d.pairs
  keys        : d'.keys.map (·.key) = ks.foldl insertNew (d.keys.map (·.key))
  fits        : (∀ k ∈ d.keys, k.Fits tables) → ∀ k ∈ d'.keys, k.Fits tables

theorem adds_of_subset {ks : List ForeignKey} (h : ks ⊆ d.keys.map (·.key)) :
    Adds tables d ks d where
  synthesized := rfl
  pairs       := rfl
  keys        := (foldl_insertNew_of_subset h).symm
  fits        := id

theorem adds_foldl_addKey (h : ∀ k ∈ ks, k.Fits tables) :
    Adds tables d (ks.map (·.key)) (ks.foldl addKey d) := by
  induction ks generalizing d
  case nil => exact ⟨rfl, rfl, rfl, id⟩
  case cons k ks ih =>
    have ⟨hk, h⟩ := List.forall_mem_cons.mp h
    have ih := ih (d := d.addKey k) h
    refine ⟨?_, ?_, ?_, fun hf => ?_⟩
    · rw [List.foldl_cons, ih.synthesized, synthesized_addKey]
    · rw [List.foldl_cons, ih.pairs, pairs_addKey]
    · rw [List.foldl_cons, ih.keys, map_key_addKey, List.map_cons, List.foldl_cons]
    · exact ih.fits (forall_keys_addKey hf hk)

theorem hasPair_iff :
    d.hasPair left right ↔ s(left.names, right.names) ∈ d.pairs.map fun p => s(p.1, p.2) := by
  simp only [hasPair, Bool.or_eq_true, List.contains_iff_mem, List.mem_map, Sym2.eq_iff]
  constructor
  · rintro (h | h)
    · exact ⟨_, h, .inl ⟨rfl, rfl⟩⟩
    · exact ⟨_, h, .inr ⟨rfl, rfl⟩⟩
  · rintro ⟨p, h, ⟨hl, hr⟩ | ⟨hl, hr⟩⟩
    · exact .inl (hl ▸ hr ▸ h)
    · exact .inr (hl ▸ hr ▸ h)

theorem addJoin_of_hasPair (h : d.hasPair left right) : d.addJoin tables left right = d :=
  if_pos h

theorem addJoin_of_not_hasPair (h : ¬d.hasPair left right) :
    d.addJoin tables left right =
      let join := joinTable (lowerNames (tables ++ d.synthesized)) left right
      (joinTableKeys (tables.length + d.synthesized.length) join left right).foldl addKey
        { d with
          synthesized := d.synthesized ++ [join]
          pairs := d.pairs ++ [(left.names, right.names)] } :=
  if_neg h

end Demand

open Demand

def demandedKeys (made : List (Declaration × Table)) (es : List Declaration) : List ForeignKey :=
  (es.flatMap (·.demanded made)).foldl insertNew []

structure Accounts (tables : List Table) (done : List Declaration) (d : Demand) : Prop where
  resolves    : ∀ e ∈ done, e.Resolves tables
  fits        : ∀ k ∈ d.keys, k.Fits (tables ++ d.synthesized)
  pairs       : (d.pairs.map fun p => s(p.1, p.2)) = (firstOfPairs done).map (·.pair)
  synthesized : Synthesized tables (firstOfPairs done) d.synthesized
  keys        : d.keys.map (·.key) = demandedKeys ((firstOfPairs done).zip d.synthesized) done

namespace Accounts

variable {tables : List Table} {d d' : Demand} {e : Declaration} {done : List Declaration}
variable {ks : List ForeignKey} {left right : Endpoint}

theorem nil : Accounts tables [] {} where
  resolves    := by simp
  fits        := by simp
  pairs       := rfl
  synthesized := .nil
  keys        := rfl

theorem nodup (h : Accounts tables done d) : (d.keys.map (·.key)).Nodup :=
  h.keys ▸ nodup_foldl_insertNew List.nodup_nil

theorem mem_keys (h : Accounts tables done d) (k : ForeignKey) :
    k ∈ d.keys.map (·.key) ↔
      ∃ e ∈ done, k ∈ e.demanded ((firstOfPairs done).zip d.synthesized) := by
  simp [h.keys, demandedKeys, mem_foldl_insertNew]

theorem demandedKeys_concat {made : List (Declaration × Table)} {es : List Declaration} :
    demandedKeys made (es ++ [e]) = (e.demanded made).foldl insertNew (demandedKeys made es) := by
  simp [demandedKeys]

theorem demandedKeys_congr {made made' : List (Declaration × Table)} {es : List Declaration}
    (h : ∀ e ∈ es, e.demanded made = e.demanded made') :
    demandedKeys made es = demandedKeys made' es := by
  rw [demandedKeys, List.flatMap_congr h]
  rfl

theorem demanded_append (h : Accounts tables done d) {more : List (Declaration × Table)}
    (he : e ∈ done) :
    e.demanded ((firstOfPairs done).zip d.synthesized ++ more) =
      e.demanded ((firstOfPairs done).zip d.synthesized) := by
  apply Declaration.demanded_append
  intro hn
  have hm := Declaration.pair_mem_firstOfPairs he hn
  rw [← h.synthesized.map_fst_zip, List.map_map] at hm
  exact hm

theorem snoc_of_adds (h : Accounts tables done d) (hr : e.Resolves tables)
    (hp : e.NeedsJoin → e.pair ∈ (firstOfPairs done).map (·.pair))
    (hk : e.demanded ((firstOfPairs done).zip d.synthesized) = ks)
    (ha : Adds (tables ++ d.synthesized) d ks d') : Accounts tables (done ++ [e]) d' := by
  have heq : firstOfPairs (done ++ [e]) = firstOfPairs done :=
    Declaration.firstOfPairs_append_of_not fun hn => hn.right (hp hn.left)
  refine ⟨?_, ?_, ?_, ?_, ?_⟩
  · simpa using fun e' he' => he'.elim (h.resolves e') (· ▸ hr)
  · exact ha.synthesized ▸ ha.fits h.fits
  · rw [ha.pairs, heq, h.pairs]
  · exact heq ▸ ha.synthesized ▸ h.synthesized
  · rw [heq, ha.synthesized, ha.keys, h.keys, ← hk, demandedKeys_concat]

theorem snoc_of_join (h : Accounts tables done d) (hn : e.NeedsJoin) (hl : left.At tables e.left)
    (hr : right.At tables e.right) (hp : e.pair ∉ (firstOfPairs done).map (·.pair))
    (hj : ¬d.hasPair left right) : Accounts tables (done ++ [e]) (d.addJoin tables left right) := by
  have heq := Declaration.firstOfPairs_append_of_needsJoin hn hp
  have hlen := h.synthesized.length_eq
  rw [addJoin_of_not_hasPair hj]
  extract_lets join
  have hplace : (tables ++ (d.synthesized ++ [join]))[tables.length + d.synthesized.length]? =
      some join := by
    simp [← List.append_assoc]
  have ha := adds_foldl_addKey
    (d := { d with
      synthesized := d.synthesized ++ [join]
      pairs := d.pairs ++ [(left.names, right.names)] })
    (fits_joinTableKeys hplace hl.append hr.append)
  rw [keys_joinTableKeys hl hr] at ha
  refine ⟨?_, ?_, ?_, ?_, ?_⟩
  · simpa using fun e' he' => he'.elim (h.resolves e') (· ▸ ⟨⟨_, hl⟩, ⟨_, hr⟩, by simp [hn.right]⟩)
  · rw [ha.synthesized]
    exact ha.fits fun k hk => List.append_assoc .. ▸ (h.fits k hk).append
  · rw [ha.pairs, heq, List.map_append, List.map_append, h.pairs]
    simp [hl.names_eq, hr.names_eq, Declaration.pair]
  · rw [ha.synthesized, heq]
    exact .snoc h.synthesized hl hr
  · -- No join table was there for this pair, so its keys are those of the new one.
    have hnone : ((firstOfPairs done).zip d.synthesized).find? (·.1.pair = e.pair) = none := by
      refine List.find?_eq_none.mpr fun m hm => ?_
      have := List.mem_map_of_mem (f := (·.pair)) (List.of_mem_zip hm).left
      exact fun he => hp (of_decide_eq_true he ▸ this)
    have he : e.demanded ((firstOfPairs done).zip d.synthesized ++ [(e, join)]) =
        e.joinKeys join := by
      simp [Declaration.demanded_of_needsJoin hn, List.find?_append, hnone]
    rw [ha.synthesized, heq, List.zip_append hlen, List.zip_cons_cons, List.zip_nil_right,
      demandedKeys_concat, he, ha.keys, h.keys]
    congr 1
    exact demandedKeys_congr fun _ he' => (h.demanded_append he').symm

theorem step (h : Accounts tables done d) (hs : Step tables d e d') :
    Accounts tables (done ++ [e]) d' := by
  have hres := hs.resolves
  cases hs
  case direct left right hk hl hr =>
    have hf : ∀ k ∈ [left.keyTo right], k.Fits (tables ++ d.synthesized) :=
      List.forall_mem_singleton.mpr (fits_keyTo hl hr).append
    refine h.snoc_of_adds hres (fun hn => ?_) ?_ (adds_foldl_addKey hf)
    · simp [Declaration.NeedsJoin, hk] at hn
    · simp [Declaration.demanded, hk, key_keyTo hl hr]
  case through left right toLeft toRight through hk ht hl hr htl htr =>
    have hf : ∀ k ∈ [toLeft.keyTo left, toRight.keyTo right], k.Fits (tables ++ d.synthesized) := by
      rw [List.forall_mem_cons, List.forall_mem_singleton]
      exact ⟨(fits_keyTo htl hl).append, (fits_keyTo htr hr).append⟩
    refine h.snoc_of_adds hres (fun hn => ?_) ?_ (adds_foldl_addKey hf)
    · simp [Declaration.NeedsJoin, ht] at hn
    · simp [Declaration.demanded, hk, ht, key_keyTo htl hl, key_keyTo htr hr]
  case join left right hn hl hr =>
    have hp : d.hasPair left right ↔ e.pair ∈ (firstOfPairs done).map (·.pair) := by
      rw [hasPair_iff, h.pairs, hl.names_eq, hr.names_eq]
      rfl
    by_cases hj : d.hasPair left right
    case neg => exact h.snoc_of_join hn hl hr (mt hp.mpr hj) hj
    case pos =>
      -- The join table of the pair was made for an earlier declaration, with all its keys.
      rw [addJoin_of_hasPair hj]
      obtain ⟨f, hf, hfe⟩ := List.mem_map.mp (hp.mp hj)
      obtain ⟨hfd, hfn⟩ := Declaration.needsJoin_of_mem_firstOfPairs hf
      refine h.snoc_of_adds hres (fun _ => hp.mp hj) rfl (adds_of_subset fun k hk => ?_)
      exact (h.mem_keys k).mpr ⟨f, hfd, Declaration.demanded_congr hn hfn hfe.symm ▸ hk⟩

end Accounts

theorem Demand.accounts_of_ofTables {tables : List Table} {d : Demand}
    (h : Demand.ofTables tables = .ok d) : Accounts tables (declarations tables) d :=
  Kept.ofTables (fun _ _ _ _ h hs => h.step hs) Accounts.nil h

end Relational
