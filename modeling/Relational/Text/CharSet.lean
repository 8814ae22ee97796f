namespace Relational.Text

-- Membership starts to hold at the first bound, stops at the second, starts at the third, and so
-- on.
structure CharSet where
  bounds : List Nat

def CharSet.contains (s : CharSet) (c : Char) : Bool :=
  (s.bounds.takeWhile (· ≤ c.toNat)).length % 2 == 1

end Relational.Text
