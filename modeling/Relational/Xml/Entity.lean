import Relational.Numeral.Digits
import Relational.Text.Split

namespace Relational.Xml

open Numeral Text

inductive EntityFault where
  | unknown (start stop : Nat) (name : String)
  | unterminated (start stop : Nat)
  | signed
  | noDigits
  | notDigits
  | tooLarge
  | null
  | notCharacter (code : Nat)

namespace EntityFault

def message : EntityFault → String
  | unknown start stop name => s!"at {start}..{stop}: unrecognized entity `{name}`"
  | unterminated start stop =>
    s!"Error while escaping character at range {start}..{stop}: Cannot find ';' after '&'"
  | signed => "invalid character reference: unexpected number sign"
  | noDigits => "invalid character reference: cannot parse integer from empty string"
  | notDigits => "invalid character reference: invalid digit found in string"
  | tooLarge => "invalid character reference: number too large to fit in target type"
  | null => "invalid character reference: 0x0 character is not permitted in XML"
  | notCharacter code => s!"invalid character reference: `{code}` is not a valid codepoint"

end EntityFault

def readCode (base : Nat) (n : Nat) : List Char → Except EntityFault Nat
  | [] => .ok n
  | c :: cs =>
    match hexValue? c with
    | none => .error .notDigits
    | some d =>
      if base ≤ d then .error .notDigits
      else if max32 < base * n + d then .error .tooLarge
      else readCode base (base * n + d) cs

def readUnsigned (base : Nat) : List Char → Except EntityFault Nat
  | [] => .error .noDigits
  | c :: cs => if c == '+' || c == '-' then .error .signed else readCode base 0 (c :: cs)

def charOfNumber (cs : List Char) : Except EntityFault Char := do
  let code ← match cs with
    | 'x' :: digits => readUnsigned 16 digits
    | digits => readUnsigned 10 digits
  if code = 0 then .error .null
  else if code.isValidChar then .ok (Char.ofNat code)
  else .error (.notCharacter code)

def charOfEntity? : List Char → Option Char
  | ['l', 't'] => some '<'
  | ['g', 't'] => some '>'
  | ['a', 'm', 'p'] => some '&'
  | ['a', 'p', 'o', 's'] => some '\''
  | ['q', 'u', 'o', 't'] => some '"'
  | _ => none

def charOf (position : Nat) : List Char → Except EntityFault Char
  | '#' :: number => charOfNumber number
  | name =>
    match charOfEntity? name with
    | some c => .ok c
    | none => .error (.unknown position (position + byteLength name) (String.ofList name))

def endsName (c : Char) : Bool :=
  c == '&' || c == ';'

def unescapeFrom (total position : Nat) : List Char → Except EntityFault (List Char)
  | [] => .ok []
  | '&' :: cs =>
    let name := cs.takeWhile (!endsName ·)
    match h : cs.dropWhile (!endsName ·) with
    | ';' :: rest => do
      let c ← charOf (position + 1) name
      let tail ← unescapeFrom total (position + byteLength name + 2) rest
      .ok (c :: tail)
    | _ => .error (.unterminated position total)
  | c :: cs => do
    let tail ← unescapeFrom total (position + c.utf8Size) cs
    .ok (c :: tail)
termination_by cs => cs.length
decreasing_by
  · have := length_dropWhile_le (!endsName ·) cs
    rw [h] at this
    simp only [List.length_cons] at this ⊢
    omega
  · simp

def unescape (cs : List Char) : Except EntityFault (List Char) :=
  unescapeFrom (byteLength cs) 0 cs

def escape (cs : List Char) : List Char :=
  cs.flatMap fun
    | '<' => "&lt;".toList
    | '>' => "&gt;".toList
    | '&' => "&amp;".toList
    | '\'' => "&apos;".toList
    | '"' => "&quot;".toList
    | c => [c]

end Relational.Xml
