import Relational.Numeral.Binary64
import Relational.Numeral.Digits
import Relational.Toml.Basic

namespace Relational.Toml

open Numeral

def ungroup? (isDigit : Char → Bool) : List Char → Option (List Char)
  | [] => none
  | [c] => if isDigit c then some [c] else none
  | c :: '_' :: rest => if isDigit c then (ungroup? isDigit rest).map (c :: ·) else none
  | c :: rest => if isDigit c then (ungroup? isDigit rest).map (c :: ·) else none

def signed : List Char → Bool × List Char
  | '-' :: rest => (true, rest)
  | '+' :: rest => (false, rest)
  | cs => (false, cs)

def wholeDigits? (cs : List Char) : Option (List Char) :=
  (ungroup? isDigit cs).filter fun ds => ds.length == 1 || ds.head? != some '0'

def inBase? (base : Nat) (cs : List Char) : Option Nat := do
  let ds ← ungroup? (fun c => (hexValue? c).isSome) cs
  ds.foldlM (fun n c => ((hexValue? c).filter (· < base)).map (base * n + ·)) 0

def integer? (cs : List Char) : Option Int :=
  match cs with
  | '0' :: 'x' :: ds => ((inBase? 16 ds).filter (· < signedBound)).map Int.ofNat
  | '0' :: 'o' :: ds => ((inBase? 8 ds).filter (· < signedBound)).map Int.ofNat
  | '0' :: 'b' :: ds => ((inBase? 2 ds).filter (· < signedBound)).map Int.ofNat
  | cs => do
    let (negative, ds) := signed cs
    let n := ofDigits (← wholeDigits? ds)
    if negative then (if n ≤ signedBound then some (-(n : Int)) else none)
    else if n < signedBound then some (n : Int) else none

def fits (digits : Nat) (exponent : Int) : Bool :=
  let magnitude : Int := (toString digits).length + exponent
  if digits = 0 ∨ magnitude < 300 then true
  else if 310 < magnitude then false
  else (Binary64.ofRatio (digits * tenTo exponent) (tenTo (-exponent))).isSome

def exponent? (cs : List Char) : Option Int :=
  let (negative, ds) := signed cs
  (ungroup? isDigit ds).map fun ds => if negative then -(ofDigits ds : Int) else ofDigits ds

def isFloat (cs : List Char) : Bool :=
  let (negative, cs) := signed cs
  if cs == "inf".toList || cs == "nan".toList then true
  else
    let isExponent (c : Char) : Bool := c == 'e' || c == 'E'
    let mantissa := cs.takeWhile (!isExponent ·)
    let whole := mantissa.takeWhile (· != '.')
    let fraction := mantissa.dropWhile (· != '.')
    let tail := cs.dropWhile (!isExponent ·)
    let parts : Option (List Char × List Char × Int) := do
      let whole ← wholeDigits? whole
      let fraction ← if fraction.isEmpty then some [] else ungroup? isDigit (fraction.drop 1)
      let exponent ← if tail.isEmpty then some 0 else exponent? (tail.drop 1)
      some (whole, fraction, exponent)
    match parts with
    | some (whole, digits, exponent) =>
      !(fraction.isEmpty && tail.isEmpty) &&
        (negative || fits (ofDigits (whole ++ digits)) (exponent - digits.length))
    | none => false

def numberUpTo? (width bound : Nat) (cs : List Char) : Option Nat :=
  if cs.length = width then (read? cs).filter (· ≤ bound) else none

def isLeapYear (year : Nat) : Bool :=
  year % 4 == 0 && (year % 100 != 0 || year % 400 == 0)

def daysInMonth (year month : Nat) : Nat :=
  if month = 2 then (if isLeapYear year then 29 else 28)
  else if month ∈ [4, 6, 9, 11] then 30
  else 31

def isDate (cs : List Char) : Bool :=
  match cs.splitOn '-' with
  | [year, month, day] =>
    match numberUpTo? 4 9999 year, numberUpTo? 2 12 month, numberUpTo? 2 31 day with
    | some year, some month, some day => 1 ≤ month && 1 ≤ day && day ≤ daysInMonth year month
    | _, _, _ => false
  | _ => false

def isClock (cs : List Char) : Bool :=
  match cs.splitOn ':' with
  | [hour, minute] => (numberUpTo? 2 23 hour).isSome && (numberUpTo? 2 59 minute).isSome
  | _ => false

def isTime (cs : List Char) : Bool :=
  let fraction := cs.dropWhile (· != '.')
  let second := (cs.takeWhile (· != '.')).drop 6
  isClock (cs.take 5) && (cs.drop 5).head? == some ':' && (numberUpTo? 2 60 second).isSome &&
    (fraction.isEmpty || (read? (fraction.drop 1)).isSome)

def isTimeWithOffset (cs : List Char) : Bool :=
  let isOffsetStart (c : Char) : Bool := c == 'Z' || c == 'z' || c == '+' || c == '-'
  isTime (cs.takeWhile (!isOffsetStart ·)) &&
    match cs.dropWhile (!isOffsetStart ·) with
    | [] | ['Z'] | ['z'] => true
    | c :: clock => (c == '+' || c == '-') && isClock clock

def isMoment (cs : List Char) : Bool :=
  isTime cs || (isDate (cs.take 10) &&
    match cs.drop 10 with
    | [] => true
    | c :: time => (c == 'T' || c == 't' || c == ' ') && isTimeWithOffset time)

def scalar? (cs : List Char) : Option Toml :=
  if cs == "true".toList then some (.boolean true)
  else if cs == "false".toList then some (.boolean false)
  else if isMoment cs then some (.moment (String.ofList cs))
  else if isFloat cs then some (.float (String.ofList cs))
  else (integer? cs).map .integer

end Relational.Toml
