import Mathlib
import Relational.Proofs.Sql.OracleNames
import Relational.Proofs.Text.Trim
import Relational.Text.Split

namespace Relational

open Sql Text

namespace Sql

def readQuoted (quote : Char) : List Char → Option (List Char × List Char)
  | [] => none
  | [c] => if c = quote then some ([], []) else none
  | c :: c' :: cs =>
    if c ≠ quote then push c (readQuoted quote (c' :: cs))
    else if c' = quote then push quote (readQuoted quote cs)
    else some ([], c' :: cs)

end Sql

namespace Dialect

def readName (d : Dialect) : List Char → Option (String × List Char)
  | [] => none
  | c :: cs =>
    if c = d.quoteMark then
      (readQuoted d.quoteMark cs).map fun (name, rest) => (String.ofList name, rest)
    else if isWordStart c then
      some (String.ofList ((c :: cs).takeWhile isWordChar), (c :: cs).dropWhile isWordChar)
    else none

def reservedWords : Dialect → List String
  | generic => Sql.reservedWords
  | oracle => oracleReservedWords
  | postgres | mysql => []

variable {d : Dialect} {name : String} {cs rest : List Char}

theorem map_toUpper_toLower (cs : List Char) :
    (cs.map Char.toLower).map Char.toUpper = cs.map Char.toUpper := by
  simp

theorem readQuoted_double (hr : Ends d rest) (cs : List Char) :
    readQuoted d.quoteMark (double d.quoteMark cs ++ d.quoteMark :: rest) = some (cs, rest) := by
  induction cs
  case nil =>
    cases rest
    case nil => simp [double, readQuoted]
    case cons c rest => simp [double, readQuoted, (hr c rfl).2]
  case cons c cs hi =>
    rw [double]
    split
    case isTrue hc => simp [readQuoted, hi, push, hc]
    case isFalse hc =>
      -- More follows, be it only the closing quote.
      obtain ⟨c', more, hm⟩ :
          ∃ c' more, double d.quoteMark cs ++ d.quoteMark :: rest = c' :: more :=
        List.exists_cons_of_ne_nil (by simp)
      rw [List.cons_append, hm, readQuoted, if_pos hc, ← hm, hi, push]

theorem isWordStart_quoteMark : isWordStart d.quoteMark = false := by
  cases d <;> rfl

theorem readName_word (hw : isWord cs) (hr : Ends d rest) :
    d.readName (cs ++ rest) = some (String.ofList cs, rest) := by
  have ⟨hn, ha⟩ := all_isWordChar_of_isWord hw
  have ⟨c, tail, he⟩ := List.exists_cons_of_ne_nil hn
  have hc : isWordStart c := by
    rw [he, isWord, Bool.and_eq_true] at hw
    exact hw.1
  have hq : c ≠ d.quoteMark := by
    rintro rfl
    simp [isWordStart_quoteMark] at hc
  have ha := List.all_eq_true.mp ha
  have hs : ∀ c ∈ rest.head?, isWordChar c = false := fun c hc => (hr c hc).1
  rw [he, List.cons_append, readName, if_neg hq, if_pos hc, ← List.cons_append, ← he,
    Text.takeWhile_append_eq ha hs, Text.dropWhile_append_eq ha hs]

theorem readName_enquote (name : String) (hr : Ends d rest) :
    d.readName ((enquote d.quoteMark name).toList ++ rest) = some (name, rest) := by
  simp only [enquote, String.toList_ofList, List.cons_append, List.append_assoc, List.nil_append,
    readName, if_true]
  rw [readQuoted_double hr, Option.map_some, String.ofList_toList]

theorem readName_append (name : String) (hr : Ends d rest) :
    d.readName ((d.quote name).toList ++ rest) = some (name, rest) := by
  cases quote_eq d name
  case inl h => rw [h.2, readName_word h.1 hr, String.ofList_toList]
  case inr h => rw [h, readName_enquote name hr]

theorem quote_injective : Function.Injective d.quote := by
  intro a b h
  have ha : d.readName ((d.quote a).toList ++ []) = some (a, []) := readName_append a nofun
  have hb : d.readName ((d.quote b).toList ++ []) = some (b, []) := readName_append b nofun
  rw [h, hb] at ha
  cases ha
  rfl

theorem all_of_mem_reservedWords {word : String} (h : word ∈ d.reservedWords) :
    word.toList.all isWordChar = true ∧ word.toList.map Char.toUpper = word.toList := by
  have hd : ∀ word ∈ d.reservedWords,
      word.toList.all isWordChar = true ∧ word.toList.map Char.toUpper = word.toList := by
    cases d
    all_goals decide +kernel
  exact hd word h

theorem quote_of_reserved (h : String.ofList (name.toList.map Char.toUpper) ∈ d.reservedWords) :
    d.quote name = enquote d.quoteMark name := by
  cases d
  case generic | oracle =>
    have hc := List.contains_iff_mem.mpr h
    simp only [reservedWords] at hc
    simp only [quote, enquoteIfNeeded, hc, Bool.not_true, Bool.and_false, Bool.false_eq_true,
      if_false]
    rfl
  case postgres | mysql => cases h

theorem lowercase_ne_of_quote_eq (h : d.quote name = name) {word : String}
    (hw : word ∈ d.reservedWords) : lowercase word ≠ lowercase name := by
  have ascii {cs : List Char} (h : cs.all isWordChar) : ∀ c ∈ cs, c.toNat < 0x80 :=
    fun c hc => toNat_lt_of_isWordChar (List.all_eq_true.mp h c hc)
  have hname := ascii (all_isWordChar_of_isWord (isWord_of_quote_eq h)).2
  have ⟨hword, hupper⟩ := all_of_mem_reservedWords hw
  intro he
  have hu : name.toList.map Char.toUpper = word.toList := calc
    name.toList.map Char.toUpper
    _ = (lowercase name).toList.map Char.toUpper := by
      rw [toList_lowercase hname, map_toUpper_toLower]
    _ = (lowercase word).toList.map Char.toUpper := by rw [he]
    _ = word.toList := by
      rw [toList_lowercase (ascii hword), map_toUpper_toLower, hupper]
  refine enquote_ne d.quoteMark name ?_
  rw [← quote_of_reserved (d := d), h]
  rwa [hu, String.ofList_toList]

-- A name is read back from the way it is written in front of anything that may follow it. So names
-- that differ are written in different ways, and a name without quotes is no reserved word.
theorem readName_quote (d : Dialect) :
    (∀ name rest, (∀ c ∈ rest.head?, c ∈ [' ', ',', '(', ')', ';']) →
      d.readName ((d.quote name).toList ++ rest) = some (name, rest)) ∧
    Function.Injective d.quote ∧
    ∀ name, d.quote name = name →
      ∀ word ∈ d.reservedWords, lowercase word ≠ lowercase name := by
  refine ⟨fun name rest hr => ?read, quote_injective, fun _ h _ hw => ?reserved⟩
  case read =>
    refine readName_append name ?_
    cases rest
    case nil => nofun
    case cons c rest =>
      have hc : c ∈ [' ', '\n', '(', ')', ',', ';'] := by
        have := hr c rfl
        simp only [List.mem_cons, List.not_mem_nil, or_false] at this ⊢
        tauto
      have ha : Sql.Apart d (c :: rest) := apart_of_mem hc
      simpa using ha []
  case reserved => exact lowercase_ne_of_quote_eq h hw

theorem readName_quote_quotes :
    (∀ c ∈ [',', '"', 'b', '"'].head?, c ∈ [' ', ',', '(', ')', ';']) ∧
    Dialect.oracle.readName ((Dialect.oracle.quote "\"\n\"").toList ++ [',', '"', 'b', '"']) =
      some ("\"\n\"", [',', '"', 'b', '"']) ∧
    Dialect.oracle.quote "date" ≠ "date" := by
  have hc : ∀ c ∈ [',', '"', 'b', '"'].head?, c ∈ [' ', ',', '(', ')', ';'] := by
    rintro _ ⟨⟩
    decide
  have ⟨hr, _, hw⟩ := readName_quote .oracle
  exact ⟨hc, hr _ _ hc, fun h => hw "date" h "DATE" (by decide) (by decide)⟩

end Dialect

end Relational
