import Relational.Numeral.Binary64

namespace Relational.Numeral

structure Decimal where
  digits : Nat
  exponent : Int

namespace Binary64

def compareDecimal (c : Nat) (p : Int) (n : Nat) (q : Int) : Ordering :=
  compare (c * tenTo p * twoTo (-q)) (n * twoTo q * tenTo (-p))

-- In quarters of the last place: the ends of the interval of reals that round to `x`.
def interval (x : Binary64) : Nat × Nat :=
  let narrow := x.mantissa = twoTo 52 ∧ minExponent < x.exponent
  (4 * x.mantissa - (if narrow then 1 else 2), 4 * x.mantissa + 2)

def isNamedBy (x : Binary64) (c : Nat) (p : Int) : Bool :=
  let (low, high) := x.interval
  let q := x.exponent - 2
  let fromLow := compareDecimal c p low q
  let toHigh := compareDecimal c p high q
  if x.mantissa % 2 = 0 then fromLow.isGE && toHigh.isLE else fromLow == .gt && toHigh == .lt

def tenPower (x : Binary64) : Nat → Int → Int
  | 0, k => k
  | fuel + 1, k =>
    if compareDecimal 1 k x.mantissa x.exponent == .gt then x.tenPower fuel (k - 1) else k

-- The two neighbours of `x` on the grid of multiples of `10 ^ p`; of those that name it the nearer.
def onGrid (x : Binary64) (p : Int) : Option Nat :=
  let c := (x.mantissa * twoTo x.exponent * tenTo (-p)) / (twoTo (-x.exponent) * tenTo p)
  let middle := compareDecimal (2 * c + 1) p (2 * x.mantissa) x.exponent
  match x.isNamedBy c p, x.isNamedBy (c + 1) p with
  | true, true => if middle == .lt then some (c + 1) else some c
  | true, false => some c
  | false, true => some (c + 1)
  | false, false => none

def shortest (x : Binary64) : Decimal :=
  let k := x.tenPower 700 309
  let found := (List.range 17).findSome? fun (n : Nat) =>
    let p := k - (n : Int)
    (x.onGrid p).map fun c => Decimal.mk c p
  found.getD ⟨0, 0⟩

end Binary64

structure NumberFormat where
  smallest : Int
  largest : Int

def plainNumber : NumberFormat := ⟨-5, 15⟩

def stripZeros : Nat → Nat → Nat × Nat
  | 0, n => (n, 0)
  | fuel + 1, n =>
    if n % 10 = 0 ∧ n ≠ 0 then
      let (m, k) := stripZeros fuel (n / 10)
      (m, k + 1)
    else (n, 0)

def NumberFormat.write (format : NumberFormat) (d : Decimal) : String :=
  let (n, zeros) := stripZeros 20 d.digits
  let digits := (toString n).toList
  let power : Int := d.exponent + zeros
  let first : Int := power + digits.length - 1
  let zerosText (k : Int) := List.replicate k.toNat '0'
  String.ofList <|
    if format.smallest ≤ first ∧ first ≤ format.largest then
      if 0 ≤ power then digits ++ zerosText power ++ ['.', '0']
      else if 0 ≤ first then
        digits.take (first + 1).toNat ++ '.' :: digits.drop (first + 1).toNat
      else '0' :: '.' :: (zerosText (-first - 1) ++ digits)
    else
      let tail := if digits.length = 1 then [] else '.' :: digits.drop 1
      let sign := if 0 ≤ first then '+' else '-'
      digits.take 1 ++ tail ++ 'e' :: sign :: (toString first.natAbs).toList

def Binary64.text (x : Binary64) : String :=
  if x.mantissa = 0 then "0.0" else plainNumber.write x.shortest

end Relational.Numeral
