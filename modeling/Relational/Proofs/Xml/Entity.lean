import Mathlib.Data.List.TakeWhile
import Relational.Xml.Entity

namespace Relational.Xml

open Text

section

variable {total position : Nat} {c : Char} {rest : List Char}

theorem unescapeFrom_entity {name : List Char} (hn : ∀ d ∈ name, endsName d = false)
    (hc : charOf (position + 1) name = .ok c) :
    unescapeFrom total position ('&' :: (name ++ ';' :: rest)) =
      (c :: ·) <$> unescapeFrom total (position + byteLength name + 2) rest := by
  have ht : (name ++ ';' :: rest).takeWhile (!endsName ·) = name := by
    rw [List.takeWhile_append_of_pos (by simpa using hn)]
    simp [endsName]
  have hd : (name ++ ';' :: rest).dropWhile (!endsName ·) = ';' :: rest := by
    rw [List.dropWhile_append_of_pos (by simpa using hn)]
    simp [endsName]
  rw [unescapeFrom]
  split
  case h_1 h =>
    cases hd.symm.trans h
    rw [ht, hc]
    rfl
  case h_2 h => exact absurd hd (h rest)

theorem unescapeFrom_plain (hc : c ≠ '&') :
    unescapeFrom total position (c :: rest) =
      (c :: ·) <$> unescapeFrom total (position + c.utf8Size) rest := by
  rw [unescapeFrom.eq_3 _ _ _ _ (by simpa using hc)]
  rfl

end

theorem charOf_entity {name : List Char} {c : Char} (h : charOfEntity? name = some c)
    (position : Nat) : charOf position name = .ok c := by
  unfold charOf
  split
  case h_1 => simp [charOfEntity?] at h
  case h_2 => rw [h]

inductive Escaped (c : Char) : List Char → Prop
  | plain : c ∉ ['<', '>', '&', '\'', '"'] → Escaped c [c]
  | entity {name : List Char} :
    charOfEntity? name = some c → (∀ d ∈ name, d ∉ ['<', '>', '&', ';', '\'', '"']) →
    Escaped c ('&' :: (name ++ [';']))

theorem escaped (c : Char) : Escaped c (escape [c]) := by
  simp only [escape, List.flatMap_singleton]
  split
  case h_1 => exact @Escaped.entity _ ['l', 't'] rfl (by simp)
  case h_2 => exact @Escaped.entity _ ['g', 't'] rfl (by simp)
  case h_3 => exact @Escaped.entity _ ['a', 'm', 'p'] rfl (by simp)
  case h_4 => exact @Escaped.entity _ ['a', 'p', 'o', 's'] rfl (by simp)
  case h_5 => exact @Escaped.entity _ ['q', 'u', 'o', 't'] rfl (by simp)
  case h_6 h₁ h₂ h₃ h₄ h₅ =>
    refine .plain ?_
    simp only [List.mem_cons, List.not_mem_nil, or_false, not_or]
    exact ⟨h₁, h₂, h₃, h₄, h₅⟩

theorem escape_cons (c : Char) (cs : List Char) : escape (c :: cs) = escape [c] ++ escape cs := by
  simp [escape]

theorem unescapeFrom_escape (total position : Nat) (cs : List Char) :
    unescapeFrom total position (escape cs) = .ok cs := by
  induction cs generalizing position
  case nil => simp [escape, unescapeFrom]
  case cons c cs hi =>
    rw [escape_cons]
    have he := escaped c
    generalize escape [c] = written at he ⊢
    cases he
    case plain h =>
      rw [List.singleton_append, unescapeFrom_plain (by simp_all), hi]
      rfl
    case entity name h hn =>
      have he : ∀ d ∈ name, endsName d = false := fun d hd => by simp_all [endsName]
      rw [List.cons_append, List.append_assoc, List.singleton_append,
        unescapeFrom_entity he (charOf_entity h _), hi]
      rfl

theorem unescape_escape (cs : List Char) : unescape (escape cs) = .ok cs :=
  unescapeFrom_escape ..

theorem Escaped.not_mem {c : Char} {written : List Char} (h : Escaped c written) :
    ∀ d ∈ written, d ∉ ['<', '>', '\'', '"'] := by
  intro d hd
  cases h
  case plain h =>
    obtain rfl := List.mem_singleton.mp hd
    simp_all
  case entity name _ hn =>
    simp only [List.mem_cons, List.mem_append, List.not_mem_nil, or_false] at hd
    obtain rfl | hd | rfl := hd
    case inl => decide
    case inr.inl => simp_all
    case inr.inr => decide

theorem not_mem_of_mem_escape {cs : List Char} {d : Char} (h : d ∈ escape cs) :
    d ∉ ['<', '>', '\'', '"'] := by
  have ⟨c, _, hc⟩ := List.mem_flatMap.mp h
  refine (escaped c).not_mem d ?_
  simpa [escape] using hc

end Relational.Xml
