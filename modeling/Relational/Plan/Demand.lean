import Relational.Plan.ForeignKey
import Relational.Text.FreeName

namespace Relational

structure PlacedKey where
  owner : Nat
  target : Nat
  key : ForeignKey
  deriving DecidableEq, Repr

-- One end of a relationship: a table and the column that takes part.
structure Endpoint where
  place : Nat
  table : Table
  column : Column

namespace Endpoint

def keyTo (e target : Endpoint) : PlacedKey where
  owner := e.place
  target := target.place
  key := ⟨e.table.name, e.column.name, target.table.name, target.column.name⟩

def names (e : Endpoint) : String × String :=
  (e.table.name, e.column.name)

end Endpoint

structure Demand where
  keys : List PlacedKey := []
  synthesized : List Table := []
  pairs : List ((String × String) × (String × String)) := []

namespace Demand

def addKey (d : Demand) (k : PlacedKey) : Demand :=
  if d.keys.any (·.key == k.key) then d else { d with keys := d.keys ++ [k] }

def hasPair (d : Demand) (left right : Endpoint) : Bool :=
  d.pairs.contains (left.names, right.names) || d.pairs.contains (right.names, left.names)

end Demand

def joinColumnNames (left right : Endpoint) : String × String :=
  let l := left.column.name
  let r := right.column.name
  if l ≠ r then (l, r)
  else
    let l := left.table.name ++ "_" ++ l
    let r := right.table.name ++ "_" ++ r
    (l, if l = r then r ++ "_2" else r)

def joinTable (taken : List String) (left right : Endpoint) : Table where
  name := Text.freeName Text.lowercase taken (left.table.name ++ "_" ++ right.table.name)
  columns :=
    let (l, r) := joinColumnNames left right
    [{ name := l, type := left.column.type, primaryKey := true },
      { name := r, type := right.column.type, primaryKey := true }]
  joinTable := true

variable (tables : List Table)

def findTable? (name : String) : Option (Nat × Table) :=
  (tables.zipIdx.reverse.find? fun (t, _) => t.name == name).map fun (t, place) => (place, t)

def endpoint (owner related : String) (place : Nat) (t : Table) (column : String) :
    Except PlanError Endpoint :=
  match t.column? column with
  | some column => .ok { place, table := t, column }
  | none => .error (.unknownColumn owner related t.name column)

-- The keys of a many-to-many relationship without through-table: those of its join table, made only
-- once.
def Demand.addJoin (d : Demand) (left right : Endpoint) : Demand :=
  if d.hasPair left right then d
  else
    let taken := (tables ++ d.synthesized).map fun t => Text.lowercase t.name
    let join := Relational.joinTable taken left right
    let place := tables.length + d.synthesized.length
    let keys := (join.columns.zip [left, right]).map fun (column, target) =>
      Endpoint.keyTo { place, table := join, column } target
    let d := { d with
      synthesized := d.synthesized ++ [join]
      pairs := d.pairs ++ [(left.names, right.names)] }
    keys.foldl Demand.addKey d

def Demand.add (place : Nat) (owner : Table) (d : Demand) (r : Relationship) :
    Except PlanError Demand := do
  let (relatedPlace, related) ← match findTable? tables r.relatedTable with
    | some found => .ok found
    | none => .error (.unknownTable owner.name r.relatedTable)
  let left ← endpoint owner.name related.name place owner r.foreignKey
  let right ← endpoint owner.name related.name relatedPlace related r.relatedForeignKey
  match r.kind, r.throughTable with
  | .oneToMany, _ => .ok (d.addKey (left.keyTo right))
  | .manyToMany, none => .ok (d.addJoin tables left right)
  | .manyToMany, some name =>
    match findTable? tables name with
    | none => .error (.unknownThroughTable owner.name related.name name)
    | some (throughPlace, through) => do
      let toLeft ← endpoint owner.name related.name throughPlace through r.foreignKey
      let toRight ← endpoint owner.name related.name throughPlace through r.relatedForeignKey
      .ok ((d.addKey (toLeft.keyTo left)).addKey (toRight.keyTo right))

def Demand.ofTables : Except PlanError Demand :=
  let addAll (d : Demand) (owner : Table × Nat) : Except PlanError Demand :=
    owner.1.relationships.foldlM (Demand.add tables owner.2 owner.1) d
  tables.zipIdx.foldlM addAll {}

end Relational
