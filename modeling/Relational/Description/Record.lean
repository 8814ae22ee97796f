import Relational.Schema.Naming

namespace Relational

structure ColumnRecord where
  name : String
  type : String
  primaryKey : Bool := false
  autoIncrement : Bool := false
  deriving DecidableEq, Repr

structure RelationshipRecord where
  kind : Option String := none
  relatedTable : String
  foreignKey : String
  relatedForeignKey : Option String := none
  throughTable : Option String := none
  junction : Bool := false
  deriving DecidableEq, Repr

structure TableRecord where
  name : String
  columns : List ColumnRecord := []
  relationships : List RelationshipRecord := []
  joinTable : Bool := false
  deriving DecidableEq, Repr

inductive RecordError where
  | missing (field table : String)
  | unknownKind (table kind : String)
  | oneToManyThrough (table related : String)
  | naming (error : NamingError)
  deriving DecidableEq, Repr

namespace RecordError

def message : RecordError → String
  | missing field table => s!"Missing {field} in relationships of table: {table}"
  | unknownKind table kind =>
    s!"Invalid relationship in table '{table}': {RelationshipKind.unknownMessage kind}"
  | oneToManyThrough table related =>
    s!"Invalid relationship in table '{table}': " ++
      s!"one-to-many relationship to '{related}' cannot name a through-table"
  | naming error => s!"Invalid schema: {error.message}"

end RecordError

def flagOfText? (s : String) : Option Bool :=
  let plain := Text.lowercase (Text.trim s)
  if plain ∈ ["true", "1", "yes", "y", "on"] then some true
  else if plain ∈ ["false", "0", "no", "n", "off"] then some false
  else none

-- A text that is not given and a blank one mean the same.
def nonBlank? (s : Option String) : Option String :=
  (s.map Text.trim).filter (· ≠ "")

namespace RelationshipRecord

def required (table field value : String) : Except RecordError String :=
  let value := Text.trim value
  if value = "" then .error (.missing field table) else .ok value

def kindOf (r : RelationshipRecord) (table : String) : Except RecordError RelationshipKind :=
  match nonBlank? r.kind with
  | some text =>
    match RelationshipKind.ofText? text with
    | some kind => .ok kind
    | none => .error (.unknownKind table text)
  | none =>
    let isMany := (nonBlank? r.throughTable).isSome || r.junction
    .ok (if isMany then .manyToMany else .oneToMany)

def toRelationship (r : RelationshipRecord) (table : String) : Except RecordError Relationship := do
  let relatedTable ← required table "related table" r.relatedTable
  let foreignKey ← required table "foreign key" r.foreignKey
  let throughTable := nonBlank? r.throughTable
  let kind ← r.kindOf table
  if kind = .oneToMany ∧ throughTable.isSome then
    .error (.oneToManyThrough table relatedTable)
  else
    .ok {
      kind, relatedTable, foreignKey, throughTable
      relatedForeignKey := (nonBlank? r.relatedForeignKey).getD foreignKey }

end RelationshipRecord

def ColumnRecord.toColumn (c : ColumnRecord) : Column :=
  { c with name := Text.trim c.name, type := Text.trim c.type }

def TableRecord.toTable (t : TableRecord) : Except RecordError Table := do
  let name := Text.trim t.name
  let relationships ← t.relationships.mapM (·.toRelationship name)
  .ok { name, columns := t.columns.map (·.toColumn), relationships, joinTable := t.joinTable }

def Schema.ofRecords (records : List TableRecord) : Except RecordError Schema := do
  let tables ← records.mapM (·.toTable)
  match checkNames tables with
  | .error e => .error (.naming e)
  | .ok () => .ok (Schema.markThroughTables { tables })

end Relational
