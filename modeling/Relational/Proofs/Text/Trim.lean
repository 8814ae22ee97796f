import Mathlib.Data.List.DropRight
import Mathlib.Data.List.TakeWhile
import Relational.Text.Blank

namespace Relational.Text

structure Tidy (s : String) : Prop where
  trimmed : trim s = s
  notBlank : isBlankText s = false

instance (s : String) : Decidable (Tidy s) :=
  decidable_of_iff (trim s = s ∧ isBlankText s = false) ⟨fun h => ⟨h.1, h.2⟩, fun h => ⟨h.1, h.2⟩⟩

def Blanks (cs : List Char) : Prop :=
  ∀ c ∈ cs, isBlank c = true

instance (cs : List Char) : Decidable (Blanks cs) :=
  List.decidableBAll (isBlank · = true) cs

theorem dropEndWhile_eq_rdropWhile (p : Char → Bool) (cs : List Char) :
    dropEndWhile p cs = cs.rdropWhile p :=
  rfl

theorem dropWhile_trimChars (cs : List Char) : (trimChars cs).dropWhile isBlank = trimChars cs := by
  refine List.dropWhile_eq_self_iff.mpr fun hl => ?_
  have hp : trimChars cs <+: cs.dropWhile isBlank := List.rdropWhile_prefix isBlank _
  have hd := List.dropWhile_eq_self_iff.mp (List.dropWhile_idempotent isBlank cs)
  rw [hp.getElem hl]
  exact hd _

theorem trimChars_trimChars (cs : List Char) : trimChars (trimChars cs) = trimChars cs := by
  rw [trimChars, dropWhile_trimChars, dropEndWhile_eq_rdropWhile]
  exact List.rdropWhile_idempotent isBlank _

theorem trimChars_eq_nil {cs : List Char} (h : Blanks cs) : trimChars cs = [] := by
  rw [trimChars, List.dropWhile_eq_nil_iff.mpr h]
  rfl

theorem exists_eq_append_trimChars (cs : List Char) :
    ∃ before after, Blanks before ∧ Blanks after ∧ cs = before ++ trimChars cs ++ after := by
  refine ⟨cs.takeWhile isBlank, (cs.dropWhile isBlank).rtakeWhile isBlank, ?_, ?_, ?_⟩
  case refine_1 => exact fun c hc => List.mem_takeWhile_imp hc
  case refine_2 => exact fun c hc => List.mem_rtakeWhile_imp hc
  case refine_3 =>
    rw [trimChars, dropEndWhile_eq_rdropWhile, List.append_assoc, List.rdropWhile_append_rtakeWhile,
      List.takeWhile_append_dropWhile]

theorem dropWhile_append_eq {p : Char → Bool} {before cs : List Char} (hb : ∀ c ∈ before, p c)
    (hc : ∀ c ∈ cs.head?, p c = false) : (before ++ cs).dropWhile p = cs := by
  rw [List.dropWhile_append_of_pos hb]
  cases cs
  case nil => rfl
  case cons c cs => simp [hc c rfl]

theorem takeWhile_append_eq {p : Char → Bool} {before cs : List Char} (hb : ∀ c ∈ before, p c)
    (hc : ∀ c ∈ cs.head?, p c = false) : (before ++ cs).takeWhile p = before := by
  rw [List.takeWhile_append_of_pos hb]
  cases cs
  case nil => simp
  case cons c cs => simp [hc c rfl]

theorem trimChars_append {before cs after : List Char} (hb : Blanks before) (ha : Blanks after)
    (hfirst : ∀ c ∈ cs.head?, isBlank c = false) (hlast : ∀ c ∈ cs.getLast?, isBlank c = false) :
    trimChars (before ++ cs ++ after) = cs := by
  have hd : dropEndWhile isBlank (cs ++ after) = cs := by
    have hr : ∀ c ∈ after.reverse, isBlank c := fun c hc => ha c (List.mem_reverse.mp hc)
    rw [dropEndWhile, List.reverse_append, dropWhile_append_eq hr (by simpa),
      List.reverse_reverse]
  rw [trimChars, List.append_assoc, List.dropWhile_append_of_pos hb]
  cases cs
  case nil => exact trimChars_eq_nil ha
  case cons c cs => rwa [List.cons_append, List.dropWhile_cons_of_neg (by simp [hfirst c rfl])]

theorem trim_trim (s : String) : trim (trim s) = trim s := by
  simp only [trim, String.toList_ofList, trimChars_trimChars]

theorem trim_eq_empty {s : String} (h : isBlankText s) : trim s = "" := by
  rw [trim, trimChars_eq_nil (List.all_eq_true.mp h), String.ofList_nil]

theorem trim_eq_empty_iff {s : String} : trim s = "" ↔ isBlankText s := by
  refine ⟨fun h => ?_, trim_eq_empty⟩
  have hn : trimChars s.toList = [] := by simpa [trim] using h
  have ⟨before, after, hb, ha, he⟩ := exists_eq_append_trimChars s.toList
  rw [hn, List.append_nil] at he
  rw [isBlankText, he]
  exact List.all_eq_true.mpr fun c hc => (List.mem_append.mp hc).elim (hb c) (ha c)

theorem not_blank_of_trim {s : String} (h : isBlankText (trim s) = false) :
    isBlankText s = false := by
  by_contra hb
  rw [trim_eq_empty (by simpa using hb)] at h
  contradiction

theorem notBlank_of_trim_ne {s : String} (h : trim s ≠ "") : isBlankText (trim s) = false := by
  by_contra hb
  have ht := trim_eq_empty (by simpa using hb)
  exact h (trim_trim s ▸ ht)

theorem tidy_trim {s : String} (h : trim s ≠ "") : Tidy (trim s) :=
  ⟨trim_trim s, notBlank_of_trim_ne h⟩

theorem Tidy.ne_empty {s : String} (h : Tidy s) : s ≠ "" := by
  rintro rfl
  exact absurd h.notBlank (by decide)

end Relational.Text
