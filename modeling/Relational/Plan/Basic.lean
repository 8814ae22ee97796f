import Relational.Plan.Demand
import Relational.Plan.Order

namespace Relational

structure Creation where
  table : Table
  keys : List ForeignKey
  deriving DecidableEq, Repr

-- The tables in order of creation, the keys to be added after that, the join tables that the schema
-- does not have, and the names of the tables that reference each other in a circle.
structure Plan where
  creations : List Creation
  deferred : List ForeignKey
  synthesized : List Table
  cycles : List (List String)
  deriving DecidableEq, Repr

namespace Plan

variable (p : Plan)

def tableNames : List String :=
  p.creations.map (·.table.name)

def size : Nat :=
  p.creations.length

end Plan

namespace Demand

variable (d : Demand)

def keysOf (place : Nat) : List PlacedKey :=
  d.keys.filter (·.owner == place)

def dependencies (size : Nat) : Dependencies where
  size
  edges := (d.keys.filter fun k => k.owner != k.target).map fun k => (k.owner, k.target)

def isInline (created : List Nat) (k : PlacedKey) : Bool :=
  k.target == k.owner || created.contains k.target

def creations (tables : List Table) (created : List Nat) : List Nat → List Creation
  | [] => []
  | place :: rest =>
    let keys := ((d.keysOf place).filter (isInline created)).map (·.key)
    ⟨tables[place]?.getD default, keys⟩ :: creations tables (place :: created) rest

def deferred (created : List Nat) : List Nat → List ForeignKey
  | [] => []
  | place :: rest =>
    ((d.keysOf place).filter (!isInline created ·)).map (·.key) ++ deferred (place :: created) rest

end Demand

def Schema.plan (s : Schema) : Except PlanError Plan := do
  let d ← Demand.ofTables s.tables
  let tables := s.tables ++ d.synthesized
  let groups := (d.dependencies tables.length).groups
  let order := groups.flatten
  let name (place : Nat) := (tables[place]?.getD default).name
  .ok {
    creations := d.creations tables [] order
    deferred := d.deferred [] order
    synthesized := d.synthesized
    cycles := (groups.filter (1 < ·.length)).map fun group => group.map name }

end Relational
