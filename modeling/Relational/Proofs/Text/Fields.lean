import Mathlib.Data.List.Basic
import Relational.Text.Blank

namespace Relational.Text

def collapseSpaces : List Char → List Char
  | [] => []
  | c :: cs => if c = ' ' ∧ cs.head? = some ' ' then collapseSpaces cs else c :: collapseSpaces cs

section

variable {p : Char → Bool} {c d : Char}

theorem fields_cons (hc : p c) (cs : List Char) : fields p (c :: cs) = fields p cs := by
  simp [fields, hc]

theorem fields_singleton (hc : ¬p c) : fields p [c] = [[c]] := by
  simp [fields, hc]

theorem fields_cons_end (hc : ¬p c) (hd : p d) (cs : List Char) :
    fields p (c :: d :: cs) = [c] :: fields p cs := by
  rw [fields.eq_def]
  simp only [if_neg hc, fields_cons hd]
  cases fields p cs
  case nil => rfl
  case cons => simp [hd]

theorem exists_of_fields {cs : List Char} (h : ∃ c ∈ cs, ¬p c) : ∃ w ws, fields p cs = w :: ws := by
  induction cs
  case nil => simp at h
  case cons c cs hi =>
    by_cases hc : p c
    case pos =>
      rw [fields_cons hc]
      exact hi (by simpa [hc] using h)
    case neg =>
      rw [fields.eq_def]
      simp only [if_neg hc]
      split
      case h_1 => split <;> exact ⟨_, _, rfl⟩
      case h_2 => exact ⟨_, _, rfl⟩

theorem exists_fields_cons (hc : ¬p c) (hd : ¬p d) (cs : List Char) :
    ∃ w ws, fields p (d :: cs) = w :: ws ∧ fields p (c :: d :: cs) = (c :: w) :: ws := by
  have ⟨w, ws, h⟩ : ∃ w ws, fields p (d :: cs) = w :: ws :=
    exists_of_fields ⟨d, List.mem_cons_self, hd⟩
  refine ⟨w, ws, h, ?_⟩
  rw [fields.eq_def]
  simp only [if_neg hc, h, if_neg hd]

theorem fields_append {after : List Char} (h : ∀ c ∈ after, p c) (cs : List Char) :
    fields p (cs ++ after) = fields p cs := by
  have hnil : fields p after = [] := by
    induction after
    case nil => rfl
    case cons d ds hi =>
      have ⟨hd, hds⟩ := List.forall_mem_cons.mp h
      rw [fields_cons hd, hi hds]
  induction cs
  case nil => exact hnil
  case cons c cs hi =>
    by_cases hc : p c
    case pos => rw [List.cons_append, fields_cons hc, fields_cons hc, hi]
    case neg =>
      cases cs
      case nil =>
        cases after
        case nil => rfl
        case cons d ds =>
          have ⟨hd, _⟩ := List.forall_mem_cons.mp h
          rw [fields_cons hd] at hnil
          simp [fields_cons_end hc hd, fields_singleton hc, hnil]
      case cons d cs =>
        by_cases hd : p d
        case pos =>
          simp only [List.cons_append, fields_cons hd] at hi ⊢
          rw [fields_cons_end hc hd, fields_cons_end hc hd, hi]
        case neg =>
          have ⟨w, ws, hw, hcw⟩ := exists_fields_cons hc hd cs
          have ⟨w', ws', hw', hcw'⟩ := exists_fields_cons hc hd (cs ++ after)
          simp only [List.cons_append] at hi ⊢
          rw [hw, hw'] at hi
          cases hi
          rw [hcw, hcw']

end

variable {cs : List Char}

theorem collapseSpaces_cons {c : Char} (hc : c ≠ ' ') (cs : List Char) :
    collapseSpaces (c :: cs) = c :: collapseSpaces cs := by
  simp [collapseSpaces, hc]

theorem collapseSpaces_space (cs : List Char) :
    collapseSpaces (' ' :: cs) = ' ' :: collapseSpaces (cs.dropWhile (· == ' ')) := by
  induction cs
  case nil => rfl
  case cons c cs hi =>
    by_cases hc : c = ' '
    case pos =>
      subst hc
      rw [List.dropWhile_cons_of_pos rfl, ← hi, collapseSpaces, if_pos ⟨rfl, rfl⟩]
    case neg =>
      have hp : ¬(c == ' ') := by simpa using hc
      rw [List.dropWhile_cons_of_neg (p := (· == ' ')) hp, collapseSpaces,
        if_neg (by simpa using hc)]

theorem getLast?_collapseSpaces (cs : List Char) : (collapseSpaces cs).getLast? = cs.getLast? := by
  induction cs
  case nil => rfl
  case cons c cs hi =>
    unfold collapseSpaces
    split
    case isTrue h =>
      cases cs
      case nil => cases h.2
      case cons => simpa using hi
    case isFalse => simp [List.getLast?_cons, hi]

theorem head?_collapseSpaces (cs : List Char) : (collapseSpaces cs).head? = cs.head? := by
  induction cs
  case nil => rfl
  case cons c cs hi =>
    unfold collapseSpaces
    split
    case isTrue h => rw [hi, h.2, h.1, List.head?_cons]
    case isFalse => rfl

theorem mem_collapseSpaces {c : Char} : c ∈ collapseSpaces cs ↔ c ∈ cs := by
  induction cs
  case nil => rfl
  case cons d cs hi =>
    unfold collapseSpaces
    split
    case isTrue h =>
      have := List.mem_of_head? h.2
      grind
    case isFalse => simp [hi]

theorem exists_of_getLast? {c : Char} {cs : List Char} (h : cs.getLast?.getD c ≠ c) :
    ∃ d ∈ cs, ¬(d == c) := by
  cases hl : cs.getLast?
  case none => simp [hl] at h
  case some d => exact ⟨d, List.mem_of_getLast? hl, by simpa [hl] using h⟩

theorem intercalate_fields {cs : List Char} (h : cs.getLast? ≠ some ' ') :
    [' '].intercalate (fields (· == ' ') cs) = collapseSpaces (cs.dropWhile (· == ' ')) := by
  induction cs
  case nil => rfl
  case cons c cs hi =>
    by_cases hc : c = ' '
    case pos =>
      subst hc
      rw [fields_cons rfl, List.dropWhile_cons_of_pos (by rfl)]
      cases cs
      case nil => rfl
      case cons d cs => exact hi (by simpa using h)
    case neg =>
      have hp : ¬(c == ' ') := by simpa using hc
      have hdrop : (c :: cs).dropWhile (· == ' ') = c :: cs := List.dropWhile_cons_of_neg hp
      rw [hdrop, collapseSpaces_cons hc]
      cases cs
      case nil => simp [fields_singleton, hp, collapseSpaces]
      case cons d cs =>
        have hi := hi (by simpa using h)
        by_cases hd : d = ' '
        case pos =>
          subst hd
          have hl : cs.getLast?.getD ' ' ≠ ' ' := by simpa [List.getLast?_cons] using h
          have ⟨w, ws, hw⟩ : ∃ w ws, fields (· == ' ') cs = w :: ws :=
            exists_of_fields (exists_of_getLast? hl)
          rw [fields_cons rfl, List.dropWhile_cons_of_pos (by rfl)] at hi
          have hf : fields (· == ' ') (c :: ' ' :: cs) = [c] :: fields (· == ' ') cs :=
            fields_cons_end (p := (· == ' ')) hp rfl _
          rw [hf, collapseSpaces_space, ← hi, hw]
          rfl
        case neg =>
          have hq : ¬(d == ' ') := by simpa using hd
          have hdrop : (d :: cs).dropWhile (· == ' ') = d :: cs := List.dropWhile_cons_of_neg hq
          have ⟨w, ws, hw, hcw⟩ := exists_fields_cons (p := (· == ' ')) hp hq cs
          rw [hw, hdrop] at hi
          rw [hcw, ← hi]
          cases ws <;> rfl

theorem map_intercalate {α β : Type} (f : α → β) (sep : List α) (parts : List (List α)) :
    (sep.intercalate parts).map f = (sep.map f).intercalate (parts.map (·.map f)) := by
  induction parts
  case nil => rfl
  case cons a parts hi =>
    cases parts
    case nil => simp
    case cons b parts =>
      simp only [List.map_cons] at hi ⊢
      rw [List.intercalate_cons_cons, List.intercalate_cons_cons, List.map_append, List.map_append,
        hi]

end Relational.Text
