import Relational.Description.Record
import Relational.Json.Decode
import Relational.Json.Parser

namespace Relational.Description

open Json (Decoded DecodeError Shape Absent fillOnce required decodeText decodeList decodeOption)

inductive JsonError where
  | notJson
  | noTables
  | badTable (label : String) (error : DecodeError)

namespace JsonError

def message : JsonError → String
  | notJson => "Error reading the JSON schema"
  | noTables => "Invalid JSON format: Root node must be an array of tables."
  | badTable label error => s!"Invalid JSON format in {label}: {error.message}"

end JsonError

def decodeFlag : Json → Decoded Bool
  | .null => .ok false
  | .bool b => .ok b
  | .integer 0 => .ok false
  | .integer 1 => .ok true
  | .text s =>
    match flagOfText? s with
    | some b => .ok b
    | none => .error (.badFlag (.text s))
  | v => .error (.badFlag v)

structure ColumnDraft where
  name : Option String := none
  type : Option String := none
  primaryKey : Option Bool := none
  autoIncrement : Option Bool := none

namespace ColumnDraft

def enter (key : String) (v : Json) (d : ColumnDraft) : Decoded ColumnDraft :=
  match key with
  | "name" => do return { d with name := ← fillOnce "name" decodeText d.name v }
  | "type" | "dataType" => do return { d with type := ← fillOnce "type" decodeText d.type v }
  | "primaryKey" | "primary_key" => do
    return { d with primaryKey := ← fillOnce "primaryKey" decodeFlag d.primaryKey v }
  | "autoIncrement" | "auto_increment" => do
    return { d with autoIncrement := ← fillOnce "autoIncrement" decodeFlag d.autoIncrement v }
  | _ => .ok d

def complete (absent : Absent) (d : ColumnDraft) : Decoded ColumnRecord := do
  let name ← required absent "name" d.name
  let type ← required absent "type" d.type
  .ok {
    name, type
    primaryKey := d.primaryKey.getD false
    autoIncrement := d.autoIncrement.getD false }

def shape : Shape ColumnDraft where
  title := "JsonColumn"
  fields := ["name", "type", "primaryKey", "autoIncrement"]
  enter := enter

end ColumnDraft

def decodeColumn : Json → Decoded ColumnRecord :=
  ColumnDraft.shape.decode {} ColumnDraft.complete

structure RelationshipDraft where
  kind : Option (Option String) := none
  relatedTable : Option String := none
  foreignKey : Option String := none
  relatedForeignKey : Option (Option String) := none
  throughTable : Option (Option String) := none
  junction : Option Bool := none

namespace RelationshipDraft

def enter (key : String) (v : Json) (d : RelationshipDraft) : Decoded RelationshipDraft :=
  match key with
  | "relationshipType" | "kind" | "type" => do
    return { d with kind := ← fillOnce "relationshipType" (decodeOption decodeText) d.kind v }
  | "relatedTable" => do
    return { d with relatedTable := ← fillOnce key decodeText d.relatedTable v }
  | "foreignKey" => do
    return { d with foreignKey := ← fillOnce key decodeText d.foreignKey v }
  | "relatedForeignKey" => do
    let relatedForeignKey ← fillOnce key (decodeOption decodeText) d.relatedForeignKey v
    return { d with relatedForeignKey }
  | "throughTable" => do
    let throughTable ← fillOnce key (decodeOption decodeText) d.throughTable v
    return { d with throughTable }
  | "junction" => do return { d with junction := ← fillOnce key decodeFlag d.junction v }
  | _ => .ok d

def complete (absent : Absent) (d : RelationshipDraft) : Decoded RelationshipRecord := do
  let relatedTable ← required absent "relatedTable" d.relatedTable
  let foreignKey ← required absent "foreignKey" d.foreignKey
  .ok {
    relatedTable, foreignKey
    kind := d.kind.join
    relatedForeignKey := d.relatedForeignKey.join
    throughTable := d.throughTable.join
    junction := d.junction.getD false }

def shape : Shape RelationshipDraft where
  title := "JsonRelationship"
  fields :=
    ["relationshipType", "relatedTable", "foreignKey", "relatedForeignKey", "throughTable",
      "junction"]
  enter := enter

end RelationshipDraft

def decodeRelationship : Json → Decoded RelationshipRecord :=
  RelationshipDraft.shape.decode {} RelationshipDraft.complete

structure TableDraft where
  name : Option String := none
  columns : Option (List ColumnRecord) := none
  relationships : Option (Option (List RelationshipRecord)) := none
  joinTable : Option Bool := none

namespace TableDraft

def enter (key : String) (v : Json) (d : TableDraft) : Decoded TableDraft :=
  match key with
  | "tableName" | "name" => do return { d with name := ← fillOnce "tableName" decodeText d.name v }
  | "columns" => do
    return { d with columns := ← fillOnce key (decodeList decodeColumn) d.columns v }
  | "relationships" => do
    let decode := decodeOption (decodeList decodeRelationship)
    return { d with relationships := ← fillOnce key decode d.relationships v }
  | "joinTable" | "isJoinTable" => do
    return { d with joinTable := ← fillOnce "joinTable" decodeFlag d.joinTable v }
  | _ => .ok d

def complete (absent : Absent) (d : TableDraft) : Decoded TableRecord := do
  let name ← required absent "tableName" d.name
  let columns ← required absent "columns" d.columns
  .ok {
    name, columns
    relationships := d.relationships.join.getD []
    joinTable := d.joinTable.getD false }

def shape : Shape TableDraft where
  title := "JsonTable"
  fields := ["tableName", "columns", "relationships", "joinTable"]
  enter := enter

end TableDraft

def decodeTable : Json → Decoded TableRecord :=
  TableDraft.shape.decode {} TableDraft.complete

-- How errors name a table: by its name if it has one, else by its place in the array, counted from
-- 1.
def tableLabel (place : Nat) (entry : Json) : String :=
  match ((entry.member? "tableName").or (entry.member? "name")).bind Json.text? with
  | some name => s!"table '{name}'"
  | none => s!"table #{place}"

def decodeTables (place : Nat) : List Json → Except JsonError (List TableRecord)
  | [] => .ok []
  | entry :: rest =>
    match decodeTable entry with
    | .error e => .error (.badTable (tableLabel place entry) e)
    | .ok t => do
      let ts ← decodeTables (place + 1) rest
      .ok (t :: ts)

def tablesOfJson : Json → Except JsonError (List TableRecord)
  | .array entries => decodeTables 1 entries
  | v =>
    match v.member? "tables" with
    | some (.array entries) => decodeTables 1 entries
    | _ => .error .noTables

def tablesOfJsonText (cs : List Char) : Except JsonError (List TableRecord) :=
  match Json.parse cs with
  | some v => tablesOfJson v
  | none => .error .notJson

end Relational.Description
