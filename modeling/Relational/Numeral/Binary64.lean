import Relational.Numeral.Digits

namespace Relational.Numeral

-- The number `mantissa * 2 ^ exponent`. The mantissa has at most 53 bits and the exponent is at
-- least -1074; a mantissa of fewer than 53 bits comes with the smallest exponent only.
structure Binary64 where
  mantissa : Nat
  exponent : Int
  deriving DecidableEq, Repr

namespace Binary64

def minExponent : Int := -1074

def maxExponent : Int := 971

def zero : Binary64 := ⟨0, minExponent⟩

def roundDiv (num den : Nat) : Nat :=
  let q := num / den
  let r := num % den
  if 2 * r < den then q
  else if den < 2 * r then q + 1
  else q + q % 2

def exponentOf (num den : Nat) : Int :=
  let e : Int := (num.log2 : Int) - den.log2 - 52
  let reach := e + 52
  let e := if num * twoTo (-reach) < den * twoTo reach then e - 1 else e
  max e minExponent

def ofRatio (num den : Nat) : Option Binary64 :=
  if num = 0 then some zero
  else
    let e := exponentOf num den
    let m := roundDiv (num * twoTo (-e)) (den * twoTo e)
    let (m, e) := if m = twoTo 53 then (twoTo 52, e + 1) else (m, e)
    if maxExponent < e then none else some ⟨m, e⟩

def mul (x y : Binary64) : Option Binary64 :=
  let e := x.exponent + y.exponent
  ofRatio (x.mantissa * y.mantissa * twoTo e) (twoTo (-e))

def div (x y : Binary64) : Option Binary64 :=
  let e := x.exponent - y.exponent
  ofRatio (x.mantissa * twoTo e) (y.mantissa * twoTo (-e))

def maxPower : Nat := 308

def powerOfTen (k : Nat) : Option Binary64 :=
  ofRatio (tenTo k) 1

-- Scales by a power of ten with one rounding; below the range of such powers it takes several
-- steps, each with its own rounding.
def scale (x : Binary64) (e : Int) : Option Binary64 :=
  if e.natAbs ≤ maxPower then do
    let p ← powerOfTen e.natAbs
    if 0 ≤ e then x.mul p else x.div p
  else if x.mantissa = 0 then some x
  else if 0 ≤ e then none
  else do
    let y ← x.div (← powerOfTen maxPower)
    y.scale (e + maxPower)
termination_by e.natAbs
decreasing_by simp only [maxPower] at *; omega

end Binary64

end Relational.Numeral
