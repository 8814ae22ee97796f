import Relational.Proofs.Json.RoundTrip

namespace Relational.Json

theorem tokens_space {c : Char} (h : isSpace c) (cs : List Char) :
    tokens (c :: cs) = tokens cs := by
  rw [tokens.eq_def, tokens.eq_def cs, List.dropWhile_cons_of_pos h]

theorem tokens_replicate_space (n : Nat) (cs : List Char) :
    tokens (List.replicate n ' ' ++ cs) = tokens cs := by
  induction n
  case zero => rfl
  case succ n hi => rw [List.replicate_succ, List.cons_append, tokens_space rfl, hi]

theorem tokens_newLine (depth : Nat) (cs : List Char) :
    tokens (newLine depth ++ cs) = tokens cs := by
  rw [newLine, List.cons_append, tokens_space rfl, tokens_replicate_space]

namespace Reading

theorem run_newLine (r : Reading) (depth : Nat) (cs : List Char) :
    r.run (newLine depth ++ cs) = r.run cs := by
  rw [run, tokens_newLine, run]

theorem run_space (r : Reading) (cs : List Char) : r.run (' ' :: cs) = r.run cs := by
  rw [run, tokens_space rfl, run]

end Reading

variable {n : Nat} {stack : List Frame} {depth : Nat}

theorem run_prettyItems (hd : stack.length + n < maxDepth) {items : List Json}
    (hi : ∀ v ∈ items, ReadsAs n (pretty depth v) v.sorted)
    (before : List Json) (v : Json) (outer : Nat) (rest : List Char) :
    Reading.run ⟨.items before :: stack, .afterValue v⟩
        (prettyItems depth items ++ newLine outer ++ ']' :: rest) =
      Reading.run
        ⟨stack, .afterValue (.array (before.reverse ++ v :: sortedItems items))⟩ rest := by
  induction items generalizing before v
  case nil =>
    rw [prettyItems, List.nil_append, Reading.run_newLine, Reading.run_of_readToken rfl rfl]
    simp [sortedItems]
  case cons w items ih =>
    have hw := hi w (by simp) (.items (v :: before) :: stack) false
    simp only [prettyItems, List.append_assoc, List.cons_append]
    rw [Reading.run_of_readToken rfl rfl, Reading.run_newLine, hw _ (by simp; omega),
      ← List.append_assoc, ih fun x hx => hi x (by simp [hx])]
    simp [sortedItems]

theorem run_prettyMembers (hd : stack.length + n < maxDepth) {members : List (String × Json)}
    (hi : ∀ m ∈ members, ReadsAs n (pretty depth m.2) m.2.sorted)
    (before : List (String × Json)) (k : String) (v : Json) (outer : Nat) (rest : List Char) :
    Reading.run ⟨.member before k :: stack, .afterValue v⟩
        (prettyMembers depth members ++ newLine outer ++ '\x7d' :: rest) =
      Reading.run
        ⟨stack, .afterValue (.object (sortedMembers (insertMember k v before) members))⟩ rest := by
  induction members generalizing before k v
  case nil =>
    rw [prettyMembers, List.nil_append, Reading.run_newLine, Reading.run_of_readToken rfl rfl]
    rfl
  case cons m members ih =>
    obtain ⟨l, w⟩ := m
    have hw := hi (l, w) (by simp) (.member (insertMember k v before) l :: stack) false
    simp only [prettyMembers, List.append_assoc, List.cons_append]
    rw [Reading.run_of_readToken rfl rfl, Reading.run_newLine,
      Reading.run_of_readToken (readToken_printText ..) rfl, Reading.run_of_readToken rfl rfl,
      Reading.run_space, hw _ (by simp; omega), ← List.append_assoc,
      ih fun x hx => hi x (by simp [hx])]
    rfl

theorem pretty_array_append (depth : Nat) (v : Json) (items : List Json) (rest : List Char) :
    pretty depth (array (v :: items)) ++ rest =
      '[' :: (newLine (depth + 1) ++ (pretty (depth + 1) v ++
        (prettyItems (depth + 1) items ++ newLine depth ++ ']' :: rest))) := by
  simp [pretty]

theorem pretty_object_append (depth : Nat) (k : String) (v : Json) (members : List (String × Json))
    (rest : List Char) : pretty depth (object ((k, v) :: members)) ++ rest =
      '\x7b' :: (newLine (depth + 1) ++ (printText k ++ ':' :: ' ' :: (pretty (depth + 1) v ++
        (prettyMembers (depth + 1) members ++ newLine depth ++ '\x7d' :: rest)))) := by
  simp [pretty]

theorem Textual.readsAs_pretty {v : Json} (h : v.Textual n) (depth : Nat) :
    ReadsAs n (v.pretty depth) v.sorted := by
  intro stack fresh rest hd
  induction h generalizing depth stack fresh rest
  -- What has no parts is the same text in every layout.
  case null => exact Textual.null.readsAs_compact stack fresh rest hd
  case bool b => cases b <;> exact Textual.bool.readsAs_compact stack fresh rest hd
  case text => exact Textual.text.readsAs_compact stack fresh rest hd
  case array items _ hi =>
    cases items
    case nil =>
      exact (Reading.run_of_readToken rfl (Reading.step_openArray (by omega))).trans
        (Reading.run_of_readToken rfl rfl)
    case cons v items _ =>
      rw [pretty_array_append, Reading.run_of_readToken rfl (Reading.step_openArray (by omega)),
        Reading.run_newLine, hi v (by simp) _ _ _ _ (by simp; omega)]
      exact run_prettyItems (by omega) (fun w hw => hi w (by simp [hw]) (depth + 1)) [] _ depth rest
  case object members _ hi =>
    cases members
    case nil =>
      exact (Reading.run_of_readToken rfl (Reading.step_openObject (by omega))).trans
        (Reading.run_of_readToken rfl rfl)
    case cons m members _ =>
      obtain ⟨k, v⟩ := m
      rw [pretty_object_append, Reading.run_of_readToken rfl (Reading.step_openObject (by omega)),
        Reading.run_newLine, Reading.run_of_readToken (readToken_printText ..) rfl,
        Reading.run_of_readToken rfl rfl, Reading.run_space,
        hi (k, v) (by simp) _ (.member [] k :: stack) false _ (by simp; omega)]
      exact run_prettyMembers (by omega) (fun w hw => hi w (by simp [hw]) (depth + 1)) [] k _ depth
        rest

-- A value that is written with one item a line, and a line end behind it, is read back with the
-- members of its objects sorted.
theorem Textual.parse_pretty {v : Json} (h : v.Textual n) (hn : n ≤ maxDepth) :
    parse (v.pretty 0 ++ newLine 0) = some v.sorted := by
  have he : tokens (newLine 0) = some [] := by
    rw [← List.append_nil (newLine 0), tokens_newLine]
    simp [tokens]
  exact (h.readsAs_pretty 0).parse hn he

end Relational.Json
