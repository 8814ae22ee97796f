import Relational.Json.Basic
import Relational.Numeral.Digits
import Relational.Text.Split

namespace Relational.Json

open Numeral Text

inductive Token where
  | openArray
  | closeArray
  | openObject
  | closeObject
  | comma
  | colon
  | scalar (value : Json)

def isSpace (c : Char) : Bool :=
  c == ' ' || c == '\n' || c == '\t' || c == '\r'

def isHighSurrogate (n : Nat) : Bool := 0xD800 ≤ n && n ≤ 0xDBFF

def isLowSurrogate (n : Nat) : Bool := 0xDC00 ≤ n && n ≤ 0xDFFF

def ofSurrogates (high low : Nat) : Char :=
  Char.ofNat (0x10000 + (high - 0xD800) * 0x400 + (low - 0xDC00))

def unescape? : Char → Option Char
  | '"' => some '"'
  | '\\' => some '\\'
  | '/' => some '/'
  | 'b' => some '\u0008'
  | 'f' => some '\u000c'
  | 'n' => some '\n'
  | 'r' => some '\r'
  | 't' => some '\t'
  | _ => none

def readText : List Char → Option (List Char × List Char)
  | [] => none
  | '"' :: rest => some ([], rest)
  | '\\' :: 'u' :: a :: b :: c :: d :: rest =>
    match readHex? [a, b, c, d] with
    | none => none
    | some n =>
      if isHighSurrogate n then
        match rest with
        | '\\' :: 'u' :: e :: f :: g :: h :: rest =>
          match readHex? [e, f, g, h] with
          | none => none
          | some m =>
            if isLowSurrogate m then push (ofSurrogates n m) (readText rest) else none
        | _ => none
      else if isLowSurrogate n then none
      else push (Char.ofNat n) (readText rest)
  | '\\' :: c :: rest =>
    match unescape? c with
    | none => none
    | some c => push c (readText rest)
  | c :: rest =>
    if c == '\\' || c.toNat < 0x20 then none
    else push c (readText rest)

-- Takes digits into a number as long as it stays within 64 bits; gives the number and how many
-- digits were taken.
def absorb (n : Nat) : List Char → Nat × Nat
  | [] => (n, 0)
  | c :: cs =>
    let next := 10 * n + digitValue c
    if max64 < next then (n, 0)
    else
      let (m, taken) := absorb next cs
      (m, taken + 1)

def realOf (negative : Bool) (whole fraction : List Char) (exponent : Int) : Option Json :=
  let (n, taken) := absorb 0 whole
  let (m, decimals) := absorb n fraction
  let power : Int := (whole.length - taken : Nat) - (decimals : Int) + exponent
  (Binary64.ofRatio m 1).bind fun x => (x.scale power).map (real negative)

def wholeOf (negative : Bool) (whole : List Char) : Option Json :=
  let n := ofDigits whole
  if negative then
    if 0 < n ∧ n ≤ signedBound then some (integer (-n)) else realOf negative whole [] 0
  else
    if n ≤ max64 then some (integer n) else realOf negative whole [] 0

def readExponent? (cs : List Char) : Option Int :=
  match cs with
  | '+' :: ds => (read? ds).map Int.ofNat
  | '-' :: ds => (read? ds).map fun n => -(n : Int)
  | ds => (read? ds).map Int.ofNat

def isExponentMark (c : Char) : Bool :=
  c == 'e' || c == 'E'

def readNumber? (cs : List Char) : Option Json :=
  let (negative, cs) := match cs with
    | '-' :: rest => (true, rest)
    | _ => (false, cs)
  let whole := cs.takeWhile isDigit
  let rest := cs.dropWhile isDigit
  let wellFormed := whole.length == 1 || (!whole.isEmpty && whole.head? != some '0')
  if !wellFormed then none
  else
    match rest with
    | [] => wholeOf negative whole
    | '.' :: rest =>
      let fraction := rest.takeWhile isDigit
      let rest := rest.dropWhile isDigit
      if fraction.isEmpty then none
      else
        match rest with
        | [] => realOf negative whole fraction 0
        | e :: rest =>
          if isExponentMark e then (readExponent? rest).bind (realOf negative whole fraction)
          else none
    | e :: rest =>
      if isExponentMark e then (readExponent? rest).bind (realOf negative whole []) else none

def isNumberChar (c : Char) : Bool :=
  isDigit c || c == '+' || c == '-' || c == '.' || isExponentMark c

def readToken : List Char → Option (Token × List Char)
  | '[' :: rest => some (.openArray, rest)
  | ']' :: rest => some (.closeArray, rest)
  | '\x7b' :: rest => some (.openObject, rest)
  | '\x7d' :: rest => some (.closeObject, rest)
  | ',' :: rest => some (.comma, rest)
  | ':' :: rest => some (.colon, rest)
  | '"' :: rest => (readText rest).map fun (cs, rest) => (.scalar (.text (String.ofList cs)), rest)
  | 'n' :: 'u' :: 'l' :: 'l' :: rest => some (.scalar .null, rest)
  | 't' :: 'r' :: 'u' :: 'e' :: rest => some (.scalar (.bool true), rest)
  | 'f' :: 'a' :: 'l' :: 's' :: 'e' :: rest => some (.scalar (.bool false), rest)
  | cs =>
    (readNumber? (cs.takeWhile isNumberChar)).map fun v =>
      (.scalar v, cs.dropWhile isNumberChar)

theorem length_readText_lt {cs s rest : List Char} (h : readText cs = some (s, rest)) :
    rest.length < cs.length := by
  fun_induction readText cs generalizing s with
  | case2 => simp_all
  | case5 | case9 | case11 | case13 =>
    rename_i ih
    obtain ⟨_, h⟩ := eq_some_of_push h
    have := ih h
    simp only [List.length_cons]
    omega
  | _ => contradiction

theorem readNumber?_nil : readNumber? [] = none := by
  simp [readNumber?]

theorem length_dropWhile_isNumberChar_lt {cs : List Char} {v : Json}
    (h : readNumber? (cs.takeWhile isNumberChar) = some v) :
    (cs.dropWhile isNumberChar).length < cs.length := by
  match cs with
  | [] => simp [readNumber?_nil] at h
  | c :: cs =>
    by_cases hc : isNumberChar c
    · have := length_dropWhile_le isNumberChar cs
      simp only [List.dropWhile_cons, hc, if_true, List.length_cons]
      omega
    · simp [hc, readNumber?_nil] at h

theorem length_readToken_lt {cs rest : List Char} {token : Token}
    (h : readToken cs = some (token, rest)) : rest.length < cs.length := by
  unfold readToken at h
  split at h
  case h_7 =>
    obtain ⟨⟨s, r⟩, hr, he⟩ := Option.map_eq_some_iff.1 h
    have := length_readText_lt hr
    simp only [Prod.mk.injEq] at he
    simp only [List.length_cons, ← he.2]
    omega
  case h_11 =>
    obtain ⟨v, hv, he⟩ := Option.map_eq_some_iff.1 h
    simp only [Prod.mk.injEq] at he
    exact he.2 ▸ length_dropWhile_isNumberChar_lt hv
  all_goals
    simp only [Option.some.injEq, Prod.mk.injEq] at h
    simp only [List.length_cons, ← h.2]
    omega

def tokens (cs : List Char) : Option (List Token) :=
  match _hs : cs.dropWhile isSpace with
  | [] => some []
  | c :: rest =>
    match _ht : readToken (c :: rest) with
    | none => none
    | some (token, rest) => (tokens rest).map (token :: ·)
termination_by cs.length
decreasing_by
  have := length_readToken_lt _ht
  have := _hs ▸ length_dropWhile_le isSpace cs
  omega

end Relational.Json
