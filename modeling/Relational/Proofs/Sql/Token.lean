import Relational.Sql.Dialect

namespace Relational

def Dialect.quoteMark : Dialect → Char
  | mysql => '\x60'
  | _ => '"'

namespace Sql

-- A name between quotes is as it was before quotes in it were doubled. One whose closing quote is
-- missing is a token that no statement has.
inductive Token where
  | word (text : String)
  | quoted (name : String)
  | unclosed (name : String)
  | sign (c : Char)
  deriving DecidableEq, Repr

-- Between tokens, in a word, between quotes, and after a quote that ends the name unless it is
-- doubled.
inductive Mode where
  | gap
  | word (text : List Char)
  | quoted (name : List Char)
  | closing (name : List Char)

variable (d : Dialect)

namespace Mode

def start (c : Char) : List Token × Mode :=
  if c = ' ' ∨ c = '\n' then ([], gap)
  else if isWordChar c then ([], word [c])
  else if c = d.quoteMark then ([], quoted [])
  else ([.sign c], gap)

def next (c : Char) : Mode → List Token × Mode
  | gap => start d c
  | word text =>
    if isWordChar c then ([], word (text ++ [c]))
    else (.word (String.ofList text) :: (start d c).1, (start d c).2)
  | quoted name =>
    if c = d.quoteMark then ([], closing name) else ([], quoted (name ++ [c]))
  | closing name =>
    if c = d.quoteMark then ([], quoted (name ++ [c]))
    else (.quoted (String.ofList name) :: (start d c).1, (start d c).2)

def last : Mode → List Token
  | gap => []
  | word text => [.word (String.ofList text)]
  | quoted name => [.unclosed (String.ofList name)]
  | closing name => [.quoted (String.ofList name)]

end Mode

def scan (m : Mode) : List Char → List Token
  | [] => m.last
  | c :: cs =>
    let (ts, m) := m.next d c
    ts ++ scan m cs

def tokens (text : String) : List Token :=
  scan d .gap text.toList

def nameToken (name : String) : Token :=
  if d.quote name = name then .word name else .quoted name

section

variable {d : Dialect} {cs rest : List Char} {c : Char} {ts : List Token}

-- A word or a name ends before what is neither part of a word nor a quote.
def Ends (d : Dialect) (rest : List Char) : Prop :=
  ∀ c ∈ rest.head?, isWordChar c = false ∧ c ≠ d.quoteMark

-- What is read as those tokens wherever it stands, if only a word cannot run on after it.
def Lexes (d : Dialect) (cs : List Char) (ts : List Token) : Prop :=
  ∀ rest, Ends d rest → scan d .gap (cs ++ rest) = ts ++ scan d .gap rest

theorem scan_word (text : List Char) (hw : cs.all isWordChar) (hr : Ends d rest) :
    scan d (.word text) (cs ++ rest) =
      .word (String.ofList (text ++ cs)) :: scan d .gap rest := by
  induction cs generalizing text
  case nil =>
    cases rest
    case nil => simp [scan, Mode.last]
    case cons c rest =>
      have hc := (hr c rfl).1
      simp [scan, Mode.next, hc]
  case cons c cs hi =>
    rw [List.all_cons, Bool.and_eq_true] at hw
    simp [scan, Mode.next, hw.1, hi _ hw.2]

theorem scan_quoted (name cs : List Char) (hr : Ends d rest) :
    scan d (.quoted name) (double d.quoteMark cs ++ d.quoteMark :: rest) =
      .quoted (String.ofList (name ++ cs)) :: scan d .gap rest := by
  induction cs generalizing name
  case nil =>
    cases rest
    case nil => simp [double, scan, Mode.next, Mode.last]
    case cons c rest =>
      have hc := (hr c rfl).2
      simp [double, scan, Mode.next, hc]
  case cons c cs hi =>
    rw [double]
    split
    case isTrue h =>
      subst h
      simp [scan, Mode.next, hi]
    case isFalse h => simp [scan, Mode.next, h, hi]

theorem lexes_word {w : String} (hw : w.toList.all isWordChar) (hn : w.toList ≠ []) :
    Lexes d w.toList [.word w] := by
  intro rest hr
  obtain ⟨cs, rfl⟩ : ∃ cs, w = String.ofList cs := ⟨w.toList, String.ofList_toList.symm⟩
  rw [String.toList_ofList] at hw hn ⊢
  cases cs
  case nil => exact absurd rfl hn
  case cons c cs =>
    rw [List.all_cons, Bool.and_eq_true] at hw
    have hb : ¬(c = ' ' ∨ c = '\n') := by
      rintro (rfl | rfl) <;> exact absurd hw.1 (by decide)
    simp [scan, Mode.next, Mode.start, hb, hw.1, scan_word [c] hw.2 hr]

theorem lexes_enquote (name : String) :
    Lexes d (enquote d.quoteMark name).toList [.quoted name] := by
  intro rest hr
  have hs : Mode.start d d.quoteMark = ([], .quoted []) := by cases d <;> rfl
  have hq := scan_quoted [] name.toList hr
  simp only [enquote, String.toList_ofList, List.cons_append, List.append_assoc, List.nil_append,
    scan, Mode.next, hs]
  rw [hq]
  simp

theorem enquote_ne (quote : Char) (name : String) : enquote quote name ≠ name := by
  intro h
  have hd (cs : List Char) : cs.length ≤ (double quote cs).length := by
    induction cs
    case nil => exact Nat.le_refl _
    case cons c cs hi =>
      rw [double]
      split <;> simp only [List.length_cons] <;> omega
  have hl := congrArg (·.toList.length) h
  have := hd name.toList
  simp only [enquote, String.toList_ofList, List.length_append, List.length_cons] at hl
  omega

theorem quote_eq (d : Dialect) (name : String) :
    (isWord name.toList = true ∧ d.quote name = name) ∨
      d.quote name = enquote d.quoteMark name := by
  cases d
  case generic | oracle =>
    simp only [Dialect.quote, enquoteIfNeeded]
    split
    case isTrue h =>
      rw [Bool.and_eq_true] at h
      exact .inl ⟨h.1, rfl⟩
    case isFalse => exact .inr rfl
  case postgres | mysql => exact .inr rfl

theorem isWord_of_quote_eq {name : String} (h : d.quote name = name) :
    isWord name.toList = true := by
  cases quote_eq d name
  case inl hw => exact hw.1
  case inr he => exact absurd (he.symm.trans h) (enquote_ne _ _)

theorem all_isWordChar_of_isWord (h : isWord cs = true) : cs ≠ [] ∧ cs.all isWordChar = true := by
  cases cs
  case nil => cases h
  case cons c cs =>
    simp only [isWord, Bool.and_eq_true] at h
    simp [isWordChar, h]

theorem lexes_quote (name : String) : Lexes d (d.quote name).toList [nameToken d name] := by
  rw [nameToken]
  split
  case isTrue h =>
    have ⟨hn, hw⟩ := all_isWordChar_of_isWord (isWord_of_quote_eq h)
    rw [h]
    exact lexes_word hw hn
  case isFalse h =>
    cases quote_eq d name
    case inl hq => exact absurd hq.2 h
    case inr hq =>
      rw [hq]
      exact lexes_enquote name

def Complete (d : Dialect) (cs : List Char) (ts : List Token) : Prop :=
  ∀ rest, scan d .gap (cs ++ rest) = ts ++ scan d .gap rest

-- What no word or name runs on into.
def Apart (d : Dialect) (cs : List Char) : Prop :=
  ∀ rest, Ends d (cs ++ rest)

variable {a b : List Char} {us : List Token}

theorem apart_of_mem (hc : c ∈ [' ', '\n', '(', ')', ',', ';']) : Apart d (c :: cs) := by
  have hq : [' ', '\n', '(', ')', ',', ';'].all fun c => !isWordChar c && c != d.quoteMark := by
    cases d <;> rfl
  have h := List.all_eq_true.mp hq c hc
  intro rest c' hc'
  cases hc'
  simpa using h

theorem complete_sign (hc : c ∈ ['(', ')', ',', ';']) : Complete d [c] [.sign c] := by
  intro rest
  simp only [List.mem_cons, List.not_mem_nil, or_false] at hc
  rcases hc with rfl | rfl | rfl | rfl
  all_goals cases d <;> rfl

theorem complete_blank : Complete d [' '] [] :=
  fun _ => rfl

namespace Complete

theorem lexes (ha : Complete d a ts) : Lexes d a ts :=
  fun rest _ => ha rest

theorem append (ha : Complete d a ts) (hb : Complete d b us) :
    Complete d (a ++ b) (ts ++ us) := by
  intro rest
  rw [List.append_assoc, ha, hb, List.append_assoc]

theorem append_lexes (ha : Complete d a ts) (hb : Lexes d b us) : Lexes d (a ++ b) (ts ++ us) := by
  intro rest hr
  rw [List.append_assoc, ha, hb rest hr, List.append_assoc]

theorem flatMap {α : Type} {text : α → List Char} {toks : α → List Token} {as : List α}
    (h : ∀ a ∈ as, Complete d (text a) (toks a)) :
    Complete d (as.flatMap text) (as.flatMap toks) := by
  induction as
  case nil => exact fun _ => rfl
  case cons a as hi =>
    have ⟨ha, hs⟩ := List.forall_mem_cons.mp h
    exact ha.append (hi hs)

end Complete

namespace Lexes

theorem append (ha : Lexes d a ts) (hb : Lexes d b us) (hab : Apart d b) :
    Lexes d (a ++ b) (ts ++ us) := by
  intro rest hr
  rw [List.append_assoc, ha _ (hab rest), hb rest hr, List.append_assoc]

theorem append_complete (ha : Lexes d a ts) (hb : Complete d b us) (hab : Apart d b) :
    Complete d (a ++ b) (ts ++ us) := by
  intro rest
  rw [List.append_assoc, ha _ (hab rest), hb, List.append_assoc]

theorem intercalate {α : Type} {text : α → List Char} {toks : α → List Token} {as : List α}
    (hc : Complete d cs ts) (hs : Apart d cs) (h : ∀ a ∈ as, Lexes d (text a) (toks a)) :
    Lexes d (cs.intercalate (as.map text)) (ts.intercalate (as.map toks)) := by
  induction as
  case nil => exact fun _ _ => rfl
  case cons a as hi =>
    have ⟨ha, has⟩ := List.forall_mem_cons.mp h
    cases as
    case nil => simpa using ha
    case cons a' as =>
      have hi := hi has
      simp only [List.map_cons] at hi ⊢
      rw [List.intercalate_cons_cons, List.intercalate_cons_cons, List.append_assoc,
        List.append_assoc]
      refine ha.append (hc.append_lexes hi) fun rest => ?_
      rw [List.append_assoc]
      exact hs _

end Lexes

theorem tokens_eq {text : String} (h : Lexes d text.toList ts) : tokens d text = ts := by
  have := h [] nofun
  simpa [tokens, scan, Mode.last] using this

end

end Sql
end Relational
