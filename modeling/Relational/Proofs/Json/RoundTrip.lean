import Mathlib.Tactic.SplitIfs
import Relational.Json.Parser
import Relational.Json.Printer

namespace Relational.Json

open Numeral Text

theorem hexValue?_hexDigit : ∀ n < 16, hexValue? (hexDigit n) = some n := by
  decide

theorem readHex?_control {c : Char} (h : c.toNat < 0x20) :
    readHex? ['0', '0', hexDigit (c.toNat / 16), hexDigit (c.toNat % 16)] = some c.toNat := by
  have hz : hexValue? '0' = some 0 := by decide
  have hq := hexValue?_hexDigit (c.toNat / 16) (by omega)
  have hr := hexValue?_hexDigit (c.toNat % 16) (by omega)
  simp only [readHex?, List.foldlM_cons, List.foldlM_nil, hz, hq, hr, Option.map_some]
  simp only [bind, Option.bind, pure, Option.some.injEq]
  omega

section

variable {c : Char} {rest : List Char}

theorem readText_plain (hq : c ≠ '"') (hb : c ≠ '\\') (hc : ¬c.toNat < 0x20) :
    readText (c :: rest) = push c (readText rest) := by
  rw [readText.eq_def]
  split
  case h_5 he =>
    obtain ⟨rfl, rfl⟩ := List.cons.inj he
    simp [hb, hc]
  all_goals simp_all

theorem readText_named {mark : Char} (h : unescape? mark = some c) (hm : mark ≠ 'u') :
    readText ('\\' :: mark :: rest) = push c (readText rest) := by
  rw [readText.eq_def]
  split
  case h_5 hn he =>
    obtain ⟨rfl, rfl⟩ := List.cons.inj he
    exact absurd rfl (hn mark rest rfl)
  all_goals simp_all

theorem readText_control (h : c.toNat < 0x20) :
    readText ('\\' :: 'u' :: '0' :: '0' :: hexDigit (c.toNat / 16) :: hexDigit (c.toNat % 16) ::
      rest) = push c (readText rest) := by
  have hs : isHighSurrogate c.toNat = false ∧ isLowSurrogate c.toNat = false := by
    simp only [isHighSurrogate, isLowSurrogate, Bool.and_eq_false_iff, decide_eq_false_iff_not]
    omega
  rw [readText]
  simp only [readHex?_control h, hs.1, hs.2, Char.ofNat_toNat, Bool.false_eq_true, if_false]

end

theorem readText_escapeChar (c : Char) (rest : List Char) :
    readText (escapeChar c ++ rest) = push c (readText rest) := by
  unfold escapeChar
  split_ifs
  case neg => exact readText_plain ‹_› ‹_› ‹_›
  -- The characters with a short escape, and then the other control characters.
  iterate 7
    · subst c
      exact readText_named rfl (by decide)
  · exact readText_control ‹_›

theorem readText_escaped (cs rest : List Char) :
    readText (cs.flatMap escapeChar ++ '"' :: rest) = some (cs, rest) := by
  induction cs
  case nil => simp [readText]
  case cons c cs hi =>
    rw [List.flatMap_cons, List.append_assoc, readText_escapeChar, hi, push]

theorem readToken_printText (s : String) (rest : List Char) :
    readToken (printText s ++ rest) = some (.scalar (.text s), rest) := by
  simp [printText, readToken, readText_escaped]

theorem readToken_space {c : Char} (h : isSpace c) (rest : List Char) :
    readToken (c :: rest) = none := by
  simp only [isSpace, Bool.or_eq_true, beq_iff_eq] at h
  obtain ((rfl | rfl) | rfl) | rfl := h
  all_goals simp [readToken, isNumberChar, isExponentMark, isDigit, readNumber?_nil]

theorem tokens_of_readToken {cs rest : List Char} {token : Token}
    (h : readToken cs = some (token, rest)) : tokens cs = (tokens rest).map (token :: ·) := by
  cases cs
  case nil => simp [readToken, readNumber?_nil] at h
  case cons c cs =>
    have hc : ¬isSpace c := fun hc => by simp [readToken_space hc] at h
    have hd : (c :: cs).dropWhile isSpace = c :: cs := List.dropWhile_cons_of_neg hc
    rw [tokens]
    split
    case h_1 hn => simp [hd] at hn
    case h_2 hs =>
      obtain ⟨rfl, rfl⟩ := List.cons.inj (hd.symm.trans hs)
      split
      case h_1 ht => simp [h] at ht
      case h_2 ht =>
        obtain ⟨rfl, rfl⟩ := Prod.mk.inj (Option.some.inj (h.symm.trans ht))
        rfl

namespace Reading

def run (r : Reading) (cs : List Char) : Option Reading :=
  (tokens cs).bind (·.foldlM step r)

variable {r r' : Reading} {cs rest : List Char} {token : Token}

theorem run_of_readToken (ht : readToken cs = some (token, rest)) (hs : r.step token = some r') :
    r.run cs = r'.run rest := by
  rw [run, tokens_of_readToken ht, run]
  cases tokens rest <;> simp [hs]

theorem step_openArray {stack : List Frame} {fresh : Bool} (h : stack.length < maxDepth) :
    step ⟨stack, .value fresh⟩ .openArray = some ⟨.items [] :: stack, .value true⟩ :=
  if_pos h

theorem step_openObject {stack : List Frame} {fresh : Bool} (h : stack.length < maxDepth) :
    step ⟨stack, .value fresh⟩ .openObject = some ⟨stack, .key [] true⟩ :=
  if_pos h

end Reading

theorem parse_eq_run (cs : List Char) : parse cs = (Reading.start.run cs).bind (·.result) := by
  simp only [parse, Reading.run]
  cases tokens cs <;> rfl

mutual

def sorted : Json → Json
  | array items => array (sortedItems items)
  | object members => object (sortedMembers [] members)
  | v => v

def sortedItems : List Json → List Json
  | [] => []
  | v :: rest => v.sorted :: sortedItems rest

def sortedMembers (before : List (String × Json)) : List (String × Json) → List (String × Json)
  | [] => before
  | (k, v) :: rest => sortedMembers (insertMember k v.sorted before) rest

end

inductive Textual : Nat → Json → Prop
  | null {n : Nat} : Textual n null
  | bool {n : Nat} {b : Bool} : Textual n (bool b)
  | text {n : Nat} {s : String} : Textual n (text s)
  | array {n : Nat} {items : List Json} :
    (∀ v ∈ items, Textual n v) → Textual (n + 1) (array items)
  | object {n : Nat} {members : List (String × Json)} :
    (∀ m ∈ members, Textual n m.2) → Textual (n + 1) (object members)

theorem Textual.array_map {α : Type} {n : Nat} {write : α → Json} (h : ∀ a, (write a).Textual n)
    (as : List α) : Textual (n + 1) (Json.array (as.map write)) := by
  refine .array fun v hv => ?_
  have ⟨a, _, ha⟩ := List.mem_map.mp hv
  exact ha ▸ h a

def ReadsAs (n : Nat) (cs : List Char) (v : Json) : Prop :=
  ∀ (stack : List Frame) (fresh : Bool) (rest : List Char), stack.length + n ≤ maxDepth →
    Reading.run ⟨stack, .value fresh⟩ (cs ++ rest) = Reading.run ⟨stack, .afterValue v⟩ rest

theorem ReadsAs.parse {n : Nat} {cs rest : List Char} {v : Json} (h : ReadsAs n cs v)
    (hn : n ≤ maxDepth) (hr : tokens rest = some []) : parse (cs ++ rest) = some v := by
  rw [parse_eq_run, Reading.start, h [] false rest (by simpa using hn)]
  simp [Reading.run, hr, Reading.result]

theorem compact_array_append (items : List Json) (rest : List Char) :
    compact (array items) ++ rest = '[' :: (compactItems items ++ ']' :: rest) := by
  simp [compact]

theorem compact_object_append (members : List (String × Json)) (rest : List Char) :
    compact (object members) ++ rest = '\x7b' :: (compactMembers members ++ '\x7d' :: rest) := by
  simp [compact]

theorem compactItems_cons_cons (v w : Json) (items : List Json) :
    compactItems (v :: w :: items) = compact v ++ ',' :: compactItems (w :: items) :=
  rfl

theorem compactMembers_cons_cons (k : String) (v : Json) (m : String × Json)
    (members : List (String × Json)) : compactMembers ((k, v) :: m :: members) =
      printText k ++ ':' :: compact v ++ ',' :: compactMembers (m :: members) :=
  rfl

theorem run_compactItems {n : Nat} {stack : List Frame} (hd : stack.length + n < maxDepth)
    {items : List Json} (hi : ∀ v ∈ items, ReadsAs n (compact v) v.sorted) (hn : items ≠ [])
    (before : List Json) (fresh : Bool) (rest : List Char) :
    Reading.run ⟨.items before :: stack, .value fresh⟩ (compactItems items ++ ']' :: rest) =
      Reading.run ⟨stack, .afterValue (.array (before.reverse ++ sortedItems items))⟩ rest := by
  induction items generalizing before fresh
  case nil => contradiction
  case cons v items ih =>
    have hv := hi v (by simp) (.items before :: stack) fresh
    cases items
    case nil =>
      rw [compactItems, hv _ (by simp; omega), Reading.run_of_readToken rfl rfl]
      simp [sortedItems]
    case cons w items =>
      rw [compactItems_cons_cons, List.append_assoc, hv _ (by simp; omega), List.cons_append,
        Reading.run_of_readToken rfl rfl, ih (fun x hx => hi x (by simp [hx])) (by simp)]
      simp [sortedItems]

theorem run_compactMembers {n : Nat} {stack : List Frame} (hd : stack.length + n < maxDepth)
    {members : List (String × Json)} (hi : ∀ m ∈ members, ReadsAs n (compact m.2) m.2.sorted)
    (hn : members ≠ [])
    (before : List (String × Json)) (fresh : Bool) (rest : List Char) :
    Reading.run ⟨stack, .key before fresh⟩ (compactMembers members ++ '\x7d' :: rest) =
      Reading.run ⟨stack, .afterValue (.object (sortedMembers before members))⟩ rest := by
  induction members generalizing before fresh
  case nil => contradiction
  case cons m members ih =>
    obtain ⟨k, v⟩ := m
    have hv := hi (k, v) (by simp) (.member before k :: stack) false
    cases members
    case nil =>
      rw [compactMembers, List.append_assoc, Reading.run_of_readToken (readToken_printText ..) rfl,
        List.cons_append, Reading.run_of_readToken rfl rfl, hv _ (by simp; omega),
        Reading.run_of_readToken rfl rfl]
      simp [sortedMembers]
    case cons m members =>
      rw [compactMembers_cons_cons, List.append_assoc, List.append_assoc,
        Reading.run_of_readToken (readToken_printText ..) rfl,
        List.cons_append, Reading.run_of_readToken rfl rfl, hv _ (by simp; omega),
        List.cons_append,
        Reading.run_of_readToken rfl rfl, ih (fun x hx => hi x (by simp [hx])) (by simp)]
      simp [sortedMembers]

theorem Textual.readsAs_compact {n : Nat} {v : Json} (h : v.Textual n) :
    ReadsAs n v.compact v.sorted := by
  intro stack fresh rest hd
  induction h generalizing stack fresh rest
  case null => exact Reading.run_of_readToken rfl rfl
  case bool n b => cases b <;> exact Reading.run_of_readToken rfl rfl
  case text => exact Reading.run_of_readToken (readToken_printText ..) rfl
  case array items _ hi =>
    rw [compact_array_append, Reading.run_of_readToken rfl (Reading.step_openArray (by omega))]
    cases items
    case nil => exact Reading.run_of_readToken rfl rfl
    case cons => exact run_compactItems (by omega) hi (by simp) [] true rest
  case object members _ hi =>
    rw [compact_object_append, Reading.run_of_readToken rfl (Reading.step_openObject (by omega))]
    cases members
    case nil => exact Reading.run_of_readToken rfl rfl
    case cons => exact run_compactMembers (by omega) hi (by simp) [] true rest

-- A value that is written out on one line is read back with the members of its objects sorted.
theorem Textual.parse_compact {n : Nat} {v : Json} (h : v.Textual n) (hn : n ≤ maxDepth) :
    parse v.compact = some v.sorted := by
  rw [← List.append_nil v.compact]
  exact h.readsAs_compact.parse hn (by simp [tokens])

end Relational.Json
