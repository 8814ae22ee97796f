namespace Relational.Text

def push (c : Char) : Option (List Char × List Char) → Option (List Char × List Char)
  | none => none
  | some (cs, rest) => some (c :: cs, rest)

theorem eq_some_of_push {c : Char} {o : Option (List Char × List Char)} {cs rest : List Char}
    (h : push c o = some (cs, rest)) : ∃ cs', o = some (cs', rest) := by
  match o with
  | some (cs', _) =>
    simp only [push, Option.some.injEq, Prod.mk.injEq] at h
    exact ⟨cs', by rw [h.2]⟩

-- Cuts before the first character at which the automaton `next` stops, and drops that character;
-- none if it never stops.
def cut {σ : Type} (next : σ → Char → Option σ) (s : σ) : List Char → Option (List Char × List Char)
  | [] => none
  | c :: cs =>
    match next s c with
    | none => some ([], cs)
    | some s => push c (cut next s cs)

theorem length_cut_lt {σ : Type} {next : σ → Char → Option σ} {s : σ} {cs front rest : List Char}
    (h : cut next s cs = some (front, rest)) : rest.length < cs.length := by
  induction cs generalizing s front with
  | nil => contradiction
  | cons c cs ih =>
    unfold cut at h
    split at h
    · simp_all
    · obtain ⟨_, h⟩ := eq_some_of_push h
      have := ih h
      simp only [List.length_cons]
      omega

theorem length_dropWhile_le (p : Char → Bool) (cs : List Char) :
    (cs.dropWhile p).length ≤ cs.length :=
  (List.dropWhile_sublist p).length_le

def byteLength : List Char → Nat
  | [] => 0
  | c :: cs => c.utf8Size + byteLength cs

end Relational.Text
