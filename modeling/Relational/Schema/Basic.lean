import Relational.Text.Blank
import Relational.Text.Case

namespace Relational

structure Column where
  name : String
  type : String
  primaryKey : Bool := false
  autoIncrement : Bool := false
  deriving DecidableEq, Repr, Inhabited

inductive RelationshipKind where
  | oneToMany
  | manyToMany
  deriving DecidableEq, Repr, Inhabited

-- A relationship of the table that declares it with `relatedTable`: `foreignKey` is a column of its
-- own side, `relatedForeignKey` one of the other side. A many-to-many relationship may go through a
-- table of the schema.
structure Relationship where
  kind : RelationshipKind
  relatedTable : String
  foreignKey : String
  relatedForeignKey : String
  throughTable : Option String := none
  deriving DecidableEq, Repr, Inhabited

structure Table where
  name : String
  columns : List Column := []
  relationships : List Relationship := []
  joinTable : Bool := false
  deriving DecidableEq, Repr, Inhabited

structure Schema where
  tables : List Table := []
  source : Option String := none
  deriving DecidableEq, Repr, Inhabited

namespace RelationshipKind

def name : RelationshipKind → String
  | oneToMany => "one-to-many"
  | manyToMany => "many-to-many"

def ofText? (s : String) : Option RelationshipKind :=
  let plain := Text.replaceChars (fun c => c == '_' || c == ' ') '-' (Text.lowercase (Text.trim s))
  if plain ∈ ["one-to-many", "many-to-one", "1:n", "n:1", "1-n", "n-1"] then some oneToMany
  else if plain ∈ ["many-to-many", "n:m", "m:n", "n-m", "m-n"] then some manyToMany
  else none

def unknownMessage (s : String) : String :=
  s!"Unknown relationship type: {Text.trim s}"

end RelationshipKind

namespace Relationship

def through (r : Relationship) (table : String) : Relationship :=
  { r with kind := .manyToMany, throughTable := some table }

end Relationship

namespace Table

variable (t : Table)

def column? (name : String) : Option Column :=
  t.columns.find? (·.name == name)

def hasColumn (name : String) : Bool :=
  (t.column? name).isSome

def primaryKey : List Column :=
  t.columns.filter (·.primaryKey)

end Table

namespace Schema

variable (s : Schema)

def table? (name : String) : Option Table :=
  s.tables.find? (·.name == name)

def hasTable (name : String) : Bool :=
  (s.table? name).isSome

def relationships : List Relationship :=
  s.tables.flatMap (·.relationships)

def throughTables : List String :=
  s.relationships.filterMap (·.throughTable)

def joinTables : List Table :=
  s.tables.filter (·.joinTable)

def markThroughTables : Schema :=
  let mark (t : Table) : Table :=
    { t with joinTable := t.joinTable || s.throughTables.contains t.name }
  { s with tables := s.tables.map mark }

def sameStructure (other : Schema) : Bool :=
  s.tables == other.tables

end Schema

end Relational
