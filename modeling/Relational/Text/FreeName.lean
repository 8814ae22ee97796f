namespace Relational.Text

def numbered (base : String) (n : Nat) : String :=
  base ++ "_" ++ toString n

-- The base if its key is free, else the first numbered name whose key is. Among one more candidate
-- than keys are taken one is free, as long as the keys of candidates differ.
def freeName (key : String → String) (taken : List String) (base : String) : String :=
  if key base ∈ taken then
    let candidates := (List.range (taken.length + 1)).map fun i => numbered base (i + 2)
    (candidates.find? fun name => key name ∉ taken).getD base
  else base

end Relational.Text
