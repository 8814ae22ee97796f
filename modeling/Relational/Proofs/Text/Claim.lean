import Mathlib.Order.Interval.Finset.Nat
import Relational.Proofs.Text.FreeName

namespace Relational.Text

variable {key : String → String} {taken taken' bases names : List String} {base name found : String}
variable {m n tried : Nat}

-- A search has a name at hand and the number of the next one. It ends when the name at hand is
-- free; how many names it tried is counted.
inductive Search (key : String → String) (taken : List String) (base : String) :
    String → Nat → String → Nat → Prop
  | found {name : String} {n : Nat} : key name ∉ taken → Search key taken base name n name 1
  | next {name found : String} {n tried : Nat} :
    key name ∈ taken → Search key taken base (numbered base n) (n + 1) found tried →
    Search key taken base name n found (tried + 1)

theorem Search.unique {found' : String} {tried' : Nat}
    (h : Search key taken base name n found tried)
    (h' : Search key taken base name n found' tried') : found = found' ∧ tried = tried' := by
  induction h generalizing found' tried'
  case found hf =>
    cases h'
    case found => exact ⟨rfl, rfl⟩
    case next ht _ => exact absurd ht hf
  case next ht _ ih =>
    cases h'
    case found hf => exact absurd ht hf
    case next _ h' =>
      have ⟨hfound, htried⟩ := ih h'
      exact ⟨hfound, congrArg (· + 1) htried⟩

theorem Search.numbered (hf : key (numbered base n) ∉ taken) (hm : m ≤ n)
    (hl : ∀ i, m ≤ i → i < n → key (Text.numbered base i) ∈ taken) :
    Search key taken base (Text.numbered base m) (m + 1) (Text.numbered base n) (n - m + 1) := by
  induction hm using Nat.decreasingInduction
  case self =>
    rw [Nat.sub_self]
    exact .found hf
  case of_succ m hm ih =>
    have ih := ih fun i hi => hl i (Nat.le_of_succ_le hi)
    rw [show n - m + 1 = n - (m + 1) + 1 + 1 by omega]
    exact .next (hl m (Nat.le_refl m) hm) ih

-- Candidates for one base have different keys.
structure Distinguishes (key : String → String) (base : String) : Prop where
  numbered : ∀ m n, key (Text.numbered base m) = key (Text.numbered base n) → m = n
  base     : ∀ n, key (Text.numbered base n) ≠ key base

theorem Distinguishes.le_card (hk : Distinguishes key base) (hb : key base ∈ taken)
    (hl : ∀ i, 2 ≤ i → i < n → key (Text.numbered base i) ∈ taken) :
    n ≤ taken.toFinset.card + 1 := by
  -- The candidates that were tried have different keys, and all of these are taken.
  let keys := (Finset.Ico 2 n).image fun i => key (Text.numbered base i)
  have hcard : keys.card = n - 2 := by
    rw [Finset.card_image_of_injective _ fun i j => hk.numbered i j, Nat.card_Ico]
  have hbase : key base ∉ keys := by
    intro hm
    have ⟨i, _, he⟩ := Finset.mem_image.mp hm
    exact hk.base i he
  have hsub : insert (key base) keys ⊆ taken.toFinset := by
    refine Finset.insert_subset (List.mem_toFinset.mpr hb) fun k hm => ?_
    obtain ⟨i, hi, rfl⟩ := Finset.mem_image.mp hm
    have ⟨h2, hn⟩ := Finset.mem_Ico.mp hi
    exact List.mem_toFinset.mpr (hl i h2 hn)
  have := Finset.card_le_card hsub
  rw [Finset.card_insert_of_notMem hbase, hcard] at this
  omega

theorem LeastFree.exists_search (h : LeastFree key taken base name)
    (hk : Distinguishes key base) :
    ∃ tried ≤ taken.toFinset.card + 1, Search key taken base base 2 name tried := by
  cases h
  case unnumbered hf => exact ⟨1, Nat.le_add_left .., .found hf⟩
  case numbered n hb hn hf hl =>
    have hle := hk.le_card hb hl
    exact ⟨n - 2 + 1 + 1, by omega, .next hb (.numbered hf hn hl)⟩

structure Finds (key : String → String) (taken : List String) (base name : String) : Prop where
  ends  : ∃ tried ≤ taken.toFinset.card + 1, ∀ found n,
    Search key taken base base 2 found n ↔ found = name ∧ n = tried
  least : LeastFree key taken base name

theorem LeastFree.finds (h : LeastFree key taken base name) (hk : Distinguishes key base) :
    Finds key taken base name := by
  obtain ⟨tried, hle, hs⟩ := h.exists_search hk
  refine ⟨⟨tried, hle, fun found n => ⟨fun hs' => hs'.unique hs, ?_⟩⟩, h⟩
  rintro ⟨rfl, rfl⟩
  exact hs

theorem finds_freeName (hk : Distinguishes key base) (taken : List String) :
    Finds key taken base (freeName key taken base) :=
  (leastFree_freeName hk.numbered taken).finds hk

-- Names that are claimed one after the other: of the keys, exactly those of the names before it are
-- taken besides when the next one is searched for.
inductive Claims (key : String → String) : List String → List String → List String → Prop
  | nil {taken : List String} : Claims key taken [] []
  | cons {taken bases names : List String} {base name : String} :
    Finds key taken base name → Claims key (key name :: taken) bases names →
    Claims key taken (base :: bases) (name :: names)

namespace Claims

theorem disjoint (h : Claims key taken bases names) : (names.map key).Disjoint taken := by
  induction h
  case nil => exact List.disjoint_nil_left _
  case cons hf _ ih =>
    rw [List.map_cons, List.disjoint_cons_left]
    exact ⟨hf.least.key_not_mem, fun _ hm ht => ih hm (List.mem_cons_of_mem _ ht)⟩

theorem nodup (h : Claims key taken bases names) : (names.map key).Nodup := by
  induction h
  case nil => exact List.nodup_nil
  case cons h ih => exact List.nodup_cons.mpr ⟨fun hm => h.disjoint hm List.mem_cons_self, ih⟩

end Claims

def claimAll (key : String → String) (taken : List String) : List String → List String
  | [] => []
  | base :: bases =>
    let name := freeName key taken base
    name :: claimAll key (key name :: taken) bases

theorem claims_claimAll (hk : ∀ base, Distinguishes key base) (taken bases : List String) :
    Claims key taken bases (claimAll key taken bases) := by
  induction bases generalizing taken
  case nil => exact .nil
  case cons base bases ih => exact .cons (finds_freeName (hk base) taken) (ih _)

theorem claimAll_congr (hk : ∀ base, Distinguishes key base) (ht : ∀ k, k ∈ taken ↔ k ∈ taken') :
    claimAll key taken bases = claimAll key taken' bases := by
  induction bases generalizing taken taken'
  case nil => rfl
  case cons base bases ih =>
    have hf := (leastFree_freeName (hk base).numbered taken).congr fun c _ => ht (key c)
    have hname := hf.unique (leastFree_freeName (hk base).numbered taken')
    rw [claimAll, claimAll, hname, ih]
    simp [ht]

theorem length_lowerAfter_cons (before cs : List Char) (c : Char) :
    (lowerAfter before (c :: cs)).length =
      (if c = 'Σ' then 1 else (lowerChar c).length) + (lowerAfter (c :: before) cs).length := by
  rw [lowerAfter, List.length_append]
  by_cases hc : c = 'Σ'
  case pos => rw [if_pos hc, if_pos hc, List.length_singleton]
  case neg => rw [if_neg hc, if_neg hc]

theorem length_lowerAfter_append (before cs ds : List Char) :
    (lowerAfter before (cs ++ ds)).length =
      (lowerAfter before cs).length + (lowerAfter (cs.reverse ++ before) ds).length := by
  induction cs generalizing before
  case nil => simp [lowerAfter]
  case cons c cs ih =>
    rw [List.cons_append, length_lowerAfter_cons, length_lowerAfter_cons, ih, Nat.add_assoc,
      List.reverse_cons, List.append_assoc, List.singleton_append]

theorem lowercase_numbered_ne (base : String) (n : Nat) :
    lowercase (numbered base n) ≠ lowercase base := by
  intro h
  have hl : (lowercase (numbered base n)).toList.length = (lowercase base).toList.length := by
    rw [h]
  rw [lowercase_numbered, List.length_append, length_lowerAfter_append, lowercase,
    String.toList_ofList] at hl
  have hu : (lowerAfter (base.toList.reverse ++ []) ['_']).length = 1 :=
    length_lowerAfter_cons _ [] '_'
  omega

theorem distinguishes_lowercase (base : String) : Distinguishes lowercase base where
  numbered _ _ := numbered_inj_of_lowercase
  base     := lowercase_numbered_ne base

theorem distinguishes_id (base : String) : Distinguishes id base where
  numbered _ _ := numbered_inj
  base n h     := lowercase_numbered_ne base n (congrArg lowercase h)

end Relational.Text
