import Mathlib.Data.List.Nodup
import Mathlib.Data.List.Perm.Subperm
import Relational.Text.Case
import Relational.Text.FreeName
import Std.Data.String.ToNat

namespace Relational.Text

-- The base where it is free, else the base with the smallest number that makes it free.
inductive LeastFree (key : String → String) (taken : List String) (base : String) : String → Prop
  | unnumbered : key base ∉ taken → LeastFree key taken base base
  | numbered {n : Nat} :
    key base ∈ taken → 2 ≤ n → key (numbered base n) ∉ taken →
    (∀ m, 2 ≤ m → m < n → key (numbered base m) ∈ taken) →
    LeastFree key taken base (numbered base n)

inductive Candidate (base : String) : String → Prop
  | unnumbered : Candidate base base
  | numbered (n : Nat) : Candidate base (numbered base n)

theorem Candidate.isPrefix {base name : String} : Candidate base name → base.toList <+: name.toList
  | unnumbered => List.prefix_rfl
  | numbered n => by simp [Text.numbered]

theorem Candidate.exists_append {front base name : String} :
    Candidate (front ++ base) name → ∃ rest, name = front ++ rest ∧ Candidate base rest
  | unnumbered => ⟨base, rfl, .unnumbered⟩
  | numbered n => ⟨Text.numbered base n, by simp [Text.numbered, String.append_assoc], .numbered n⟩

namespace LeastFree

variable {key : String → String} {taken taken' : List String} {base name name' : String}

theorem key_not_mem : LeastFree key taken base name → key name ∉ taken
  | unnumbered h | numbered _ _ h _ => h

theorem candidate : LeastFree key taken base name → Candidate base name
  | unnumbered _       => .unnumbered
  | numbered _ _ _ _   => .numbered _

theorem unique (h : LeastFree key taken base name) (h' : LeastFree key taken base name') :
    name = name' := by
  cases h <;> cases h'
  case unnumbered.unnumbered => rfl
  case unnumbered.numbered hf n ht _ _ _ => exact absurd ht hf
  case numbered.unnumbered n ht _ _ _ hf => exact absurd ht hf
  case numbered.numbered m _ hm hfm hlm n _ hn hfn hln =>
    rcases Nat.lt_trichotomy m n with hlt | heq | hgt
    · exact absurd (hln m hm hlt) hfm
    · rw [heq]
    · exact absurd (hlm n hn hgt) hfn

theorem mono (h : LeastFree key taken base name) (ht : taken ⊆ taken') (hf : key name ∉ taken') :
    LeastFree key taken' base name := by
  cases h
  case unnumbered => exact .unnumbered hf
  case numbered hb hn _ hl => exact .numbered (ht hb) hn hf fun m h₂ hm => ht (hl m h₂ hm)

theorem congr (h : LeastFree key taken base name)
    (ht : ∀ c, Candidate base c → (key c ∈ taken ↔ key c ∈ taken')) :
    LeastFree key taken' base name := by
  cases h
  case unnumbered hb => exact .unnumbered ((ht _ .unnumbered).not.mp hb)
  case numbered hb hn hf hl =>
    refine .numbered ((ht _ .unnumbered).mp hb) hn ((ht _ (.numbered _)).not.mp hf) ?_
    exact fun m h₂ hm => (ht _ (.numbered m)).mp (hl m h₂ hm)

end LeastFree

section

variable {key : String → String} {base : String}

theorem exists_numbered_not_mem (hk : ∀ m n, key (numbered base m) = key (numbered base n) → m = n)
    (taken : List String) : ∃ i ≤ taken.length, key (numbered base (i + 2)) ∉ taken := by
  by_contra hc
  -- Otherwise one more key than there are would be taken.
  let keys := (List.range (taken.length + 1)).map fun i => key (numbered base (i + 2))
  have hn : keys.Nodup := by
    refine List.Nodup.map (fun i j h => ?_) List.nodup_range
    exact Nat.add_right_cancel (hk _ _ h)
  have hs : keys ⊆ taken := by
    intro k hm
    have ⟨i, hi, he⟩ := List.mem_map.mp hm
    by_contra ht
    exact hc ⟨i, Nat.lt_succ_iff.mp (List.mem_range.mp hi), he ▸ ht⟩
  have hl : keys.length ≤ taken.length := (hn.subperm hs).length_le
  simp only [keys, List.length_map, List.length_range] at hl
  omega

theorem leastFree_freeName (hk : ∀ m n, key (numbered base m) = key (numbered base n) → m = n)
    (taken : List String) : LeastFree key taken base (freeName key taken base) := by
  unfold freeName
  split
  case isFalse h => exact .unnumbered h
  case isTrue h =>
    have ⟨i, hi, hf⟩ := exists_numbered_not_mem hk taken
    simp only [List.find?_map]
    cases hs : (List.range (taken.length + 1)).find? _
    case none =>
      have := List.find?_eq_none.mp hs i (List.mem_range.mpr (Nat.lt_succ_of_le hi))
      simp [hf] at this
    case some j =>
      have ⟨hj, _, hl⟩ := List.find?_range_eq_some.mp hs
      refine .numbered h (Nat.le_add_left ..) (by simpa using hj) fun m h2 hm => ?_
      have := hl (m - 2) (by omega)
      simpa [Nat.sub_add_cancel h2] using this

end

theorem meetsCased_append_underscore (cs ds : List Char) :
    meetsCased (cs ++ '_' :: ds) = meetsCased (cs ++ ['_']) := by
  have hu : caseIgnorable.contains '_' = false := by decide
  induction cs
  case nil => simp [meetsCased, hu]
  case cons c cs ih =>
    by_cases hc : caseIgnorable.contains c
    · simpa [meetsCased, hc] using ih
    · simp [meetsCased, hc]

theorem lowerAfter_append_underscore (before cs ds : List Char) :
    lowerAfter before (cs ++ '_' :: ds) =
      lowerAfter before (cs ++ ['_']) ++ lowerAfter ('_' :: cs.reverse ++ before) ds := by
  induction cs generalizing before
  case nil => simp [lowerAfter]
  case cons c cs ih => simp [lowerAfter, ih, meetsCased_append_underscore cs ds]

theorem lowerAfter_ascii (before : List Char) {cs : List Char} (h : ∀ c ∈ cs, c.toNat < 0x80) :
    lowerAfter before cs = cs.map Char.toLower := by
  induction cs generalizing before
  case nil => rfl
  case cons c cs ih =>
    have ⟨hc, hcs⟩ := List.forall_mem_cons.mp h
    have hs : c ≠ 'Σ' := by rintro rfl; revert hc; decide
    simp [lowerAfter, lowerChar, hs, hc, ih _ hcs]

theorem toNat_toLower (c : Char) :
    c.toLower.toNat = if 65 ≤ c.toNat ∧ c.toNat ≤ 90 then c.toNat + 32 else c.toNat := by
  unfold Char.toLower
  split
  case isTrue h =>
    have h : 65 ≤ c.toNat ∧ c.toNat ≤ 90 := h
    have hv : (c.val + 32).toNat = c.toNat + 32 := by
      rw [UInt32.toNat_add]
      exact Nat.mod_eq_of_lt (by simp; omega)
    rw [if_pos h]
    exact hv
  case isFalse h => exact (if_neg h).symm

theorem toLower_digit {c : Char} (h : c.isDigit) : c.toLower = c := by
  simp only [Char.isDigit, Bool.and_eq_true, decide_eq_true_eq] at h
  have hle : c.toNat ≤ 57 := h.right
  apply Char.toNat_inj.mp
  rw [toNat_toLower, if_neg (by omega)]

theorem lowerAfter_digits (before : List Char) {ds : List Char} (h : ∀ c ∈ ds, c.isDigit) :
    lowerAfter before ds = ds := by
  have ha : ∀ c ∈ ds, c.toNat < 0x80 := by
    intro c hc
    have := h c hc
    simp only [Char.isDigit, Bool.and_eq_true, decide_eq_true_eq] at this
    exact Nat.lt_of_le_of_lt (show c.toNat ≤ 57 from this.right) (by decide)
  rw [lowerAfter_ascii before ha, List.map_congr_left fun c hc => toLower_digit (h c hc)]
  exact List.map_id' ds

theorem isDigit_of_mem_repr {n : Nat} : ∀ c ∈ (Nat.repr n).toList, c.isDigit := by
  intro c hc
  rw [Nat.toList_repr] at hc
  exact Nat.isDigit_of_mem_toDigits (by omega) (by omega) hc

theorem toList_numbered (base : String) (n : Nat) :
    (numbered base n).toList = base.toList ++ '_' :: (Nat.repr n).toList := by
  simp [numbered]

theorem lowercase_numbered (base : String) (n : Nat) :
    (lowercase (numbered base n)).toList =
      lowerAfter [] (base.toList ++ ['_']) ++ (Nat.repr n).toList := by
  rw [lowercase, toList_numbered, String.toList_ofList, lowerAfter_append_underscore,
    lowerAfter_digits _ isDigit_of_mem_repr]

theorem numbered_inj_of_lowercase {base : String} {m n : Nat}
    (h : lowercase (numbered base m) = lowercase (numbered base n)) : m = n := by
  have h := congrArg String.toList h
  simp only [lowercase_numbered] at h
  exact Nat.repr_injective (String.toList_injective (List.append_cancel_left h))

theorem numbered_inj {base : String} {m n : Nat} (h : numbered base m = numbered base n) : m = n :=
  numbered_inj_of_lowercase (congrArg lowercase h)

theorem leastFree_freeName_id (taken : List String) (base : String) :
    LeastFree id taken base (freeName id taken base) :=
  leastFree_freeName (fun _ _ => numbered_inj) taken

theorem leastFree_freeName_lowercase (taken : List String) (base : String) :
    LeastFree lowercase taken base (freeName lowercase taken base) :=
  leastFree_freeName (fun _ _ => numbered_inj_of_lowercase) taken

theorem freeName_lowercase_mono {taken taken' : List String} {base : String} (ht : taken ⊆ taken')
    (hf : lowercase (freeName lowercase taken base) ∉ taken') :
    freeName lowercase taken' base = freeName lowercase taken base :=
  have h := (leastFree_freeName_lowercase taken base).mono ht hf
  (leastFree_freeName_lowercase taken' base).unique h

end Relational.Text
