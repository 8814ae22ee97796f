namespace Relational

inductive Toml.Origin where
  -- named on the way to another table in a header
  | implied
  -- named on the way to a key in a dotted key
  | dotted
  -- by a header of its own
  | declared
  -- between braces, which cannot be extended
  | inline
  deriving DecidableEq

inductive Toml where
  | text (value : String)
  | boolean (value : Bool)
  | integer (value : Int)
  | float (written : String)
  | moment (written : String)
  | array (items : List Toml)
  | table (origin : Toml.Origin) (entries : List (String × Toml))
  | tables (elements : List (List (String × Toml)))

namespace Toml

abbrev Entries := List (String × Toml)

def replace (key : String) (v : Toml) (entries : Entries) : Entries :=
  entries.map fun (k, old) => if k = key then (k, v) else (k, old)

-- Changes the table at a path, making tables on the way where there are none. A path into an array
-- of tables leads to its last element. Dotted keys do not lead into tables that were declared by a
-- header.
def extend (isDotted : Bool) (change : Origin → Entries → Option Entries) (origin : Origin) :
    List String → Entries → Option Entries
  | [], entries => change origin entries
  | key :: path, entries =>
    match entries.lookup key with
    | none => do
      let origin : Origin := if isDotted then .dotted else .implied
      let inner ← extend isDotted change origin path []
      some (entries ++ [(key, .table origin inner)])
    | some (.table origin inner) =>
      if origin = .inline ∨ (isDotted ∧ origin = .declared) then none
      else do
        let inner ← extend isDotted change origin path inner
        some (replace key (.table origin inner) entries)
    | some (.tables elements) =>
      match elements.getLast? with
      | none => none
      | some last => do
        let last ← extend isDotted change .declared path last
        some (replace key (.tables (elements.dropLast ++ [last])) entries)
    | some _ => none

def assign (path : List String) (key : String) (v : Toml) (entries : Entries) : Option Entries :=
  extend true
    (fun origin inner =>
      if !path.isEmpty && origin != .dotted then none
      else if (inner.lookup key).isSome then none
      else some (inner ++ [(key, v)]))
    .declared path entries

def declareTable (path : List String) (key : String) (entries : Entries) : Option Entries :=
  extend false
    (fun _ inner =>
      match inner.lookup key with
      | none => some (inner ++ [(key, .table .declared [])])
      | some (.table .implied old) => some (replace key (.table .declared old) inner)
      | some _ => none)
    .declared path entries

def declareElement (path : List String) (key : String) (entries : Entries) : Option Entries :=
  extend false
    (fun _ inner =>
      match inner.lookup key with
      | none => some (inner ++ [(key, .tables [[]])])
      | some (.tables elements) => some (replace key (.tables (elements ++ [[]])) inner)
      | some _ => none)
    .declared path entries

def assignIn (header path : List String) (key : String) (v : Toml) (entries : Entries) :
    Option Entries :=
  extend false (fun _ inner => assign path key v inner) .declared header entries

end Toml

end Relational
