import Relational.Json.Decode
import Relational.Schema.Basic

namespace Relational

open Json (Decoded DecodeError Shape Absent fillOnce required decodeText decodeBool decodeList
  decodeOption)

def flagMember (name : String) (flag : Bool) : List (String × Json) :=
  if flag then [(name, .bool true)] else []

namespace Column

def toJson (c : Column) : Json :=
  .object ([("name", .text c.name), ("type", .text c.type)] ++
    flagMember "primaryKey" c.primaryKey ++ flagMember "autoIncrement" c.autoIncrement)

structure Draft where
  name : Option String := none
  type : Option String := none
  primaryKey : Option Bool := none
  autoIncrement : Option Bool := none

def Draft.enter (key : String) (v : Json) (d : Draft) : Decoded Draft :=
  match key with
  | "name" => do return { d with name := ← fillOnce key decodeText d.name v }
  | "type" => do return { d with type := ← fillOnce key decodeText d.type v }
  | "primaryKey" => do
    return { d with primaryKey := ← fillOnce key decodeBool d.primaryKey v }
  | "autoIncrement" => do
    return { d with autoIncrement := ← fillOnce key decodeBool d.autoIncrement v }
  | _ => .ok d

def Draft.complete (absent : Absent) (d : Draft) : Decoded Column := do
  let name ← required absent "name" d.name
  let type ← required absent "type" d.type
  .ok {
    name, type
    primaryKey := d.primaryKey.getD false
    autoIncrement := d.autoIncrement.getD false }

def shape : Shape Draft where
  title := "Column"
  fields := ["name", "type", "primaryKey", "autoIncrement"]
  enter := Draft.enter

def ofJson : Json → Decoded Column :=
  shape.decode {} Draft.complete

end Column

namespace RelationshipKind

def ofJson : Json → Decoded RelationshipKind
  | .text s => ofName s
  | .object [(s, payload)] => do
    let kind ← ofName s
    match payload with
    | .null => .ok kind
    | v => .error (.wrongType v "unit")
  | .object _ => .error .notOneMember
  | v => .error (.wrongType v "string or map")
where
  ofName (s : String) : Decoded RelationshipKind :=
    match [oneToMany, manyToMany].find? (·.name == s) with
    | some kind => .ok kind
    | none => .error (.unknownVariant s [oneToMany.name, manyToMany.name])

end RelationshipKind

namespace Relationship

def toJson (r : Relationship) : Json :=
  .object ([("relationshipType", .text r.kind.name), ("relatedTable", .text r.relatedTable),
      ("foreignKey", .text r.foreignKey), ("relatedForeignKey", .text r.relatedForeignKey)] ++
    r.throughTable.toList.map fun t => ("throughTable", .text t))

structure Draft where
  kind : Option RelationshipKind := none
  relatedTable : Option String := none
  foreignKey : Option String := none
  relatedForeignKey : Option String := none
  throughTable : Option (Option String) := none

def Draft.enter (key : String) (v : Json) (d : Draft) : Decoded Draft :=
  match key with
  | "relationshipType" => do
    return { d with kind := ← fillOnce key RelationshipKind.ofJson d.kind v }
  | "relatedTable" => do
    return { d with relatedTable := ← fillOnce key decodeText d.relatedTable v }
  | "foreignKey" => do
    return { d with foreignKey := ← fillOnce key decodeText d.foreignKey v }
  | "relatedForeignKey" => do
    return { d with relatedForeignKey := ← fillOnce key decodeText d.relatedForeignKey v }
  | "throughTable" => do
    return { d with throughTable := ← fillOnce key (decodeOption decodeText) d.throughTable v }
  | _ => .ok d

def Draft.complete (absent : Absent) (d : Draft) : Decoded Relationship := do
  let kind ← required absent "relationshipType" d.kind
  let relatedTable ← required absent "relatedTable" d.relatedTable
  let foreignKey ← required absent "foreignKey" d.foreignKey
  let relatedForeignKey ← required absent "relatedForeignKey" d.relatedForeignKey
  .ok { kind, relatedTable, foreignKey, relatedForeignKey, throughTable := d.throughTable.join }

def shape : Shape Draft where
  title := "Relationship"
  fields := ["relationshipType", "relatedTable", "foreignKey", "relatedForeignKey", "throughTable"]
  enter := Draft.enter

def ofJson : Json → Decoded Relationship :=
  shape.decode {} Draft.complete

end Relationship

namespace Table

def toJson (t : Table) : Json :=
  let relationships : List (String × Json) :=
    if t.relationships.isEmpty then []
    else [("relationships", .array (t.relationships.map (·.toJson)))]
  .object ([("tableName", .text t.name), ("columns", .array (t.columns.map (·.toJson)))] ++
    relationships ++ flagMember "joinTable" t.joinTable)

structure Draft where
  name : Option String := none
  columns : Option (List Column) := none
  relationships : Option (List Relationship) := none
  joinTable : Option Bool := none

def Draft.enter (key : String) (v : Json) (d : Draft) : Decoded Draft :=
  match key with
  | "tableName" => do return { d with name := ← fillOnce key decodeText d.name v }
  | "columns" => do
    return { d with columns := ← fillOnce key (decodeList Column.ofJson) d.columns v }
  | "relationships" => do
    let relationships ← fillOnce key (decodeList Relationship.ofJson) d.relationships v
    return { d with relationships }
  | "joinTable" => do return { d with joinTable := ← fillOnce key decodeBool d.joinTable v }
  | _ => .ok d

def Draft.complete (absent : Absent) (d : Draft) : Decoded Table := do
  let name ← required absent "tableName" d.name
  let columns ← required absent "columns" d.columns
  .ok {
    name, columns
    relationships := d.relationships.getD []
    joinTable := d.joinTable.getD false }

def shape : Shape Draft where
  title := "Table"
  fields := ["tableName", "columns", "relationships", "joinTable"]
  enter := Draft.enter

def ofJson : Json → Decoded Table :=
  shape.decode {} Draft.complete

end Table

namespace Schema

def toJson (s : Schema) : Json :=
  .array (s.tables.map (·.toJson))

def toJsonText (s : Schema) : String :=
  s.toJson.toPrettyText ++ "\n"

structure Draft where
  tables : Option (List Table) := none

def Draft.enter (key : String) (v : Json) (d : Draft) : Decoded Draft :=
  match key with
  | "tables" => do return { d with tables := ← fillOnce key (decodeList Table.ofJson) d.tables v }
  | _ => .ok d

def Draft.complete (absent : Absent) (d : Draft) : Decoded Schema := do
  let tables ← required absent "tables" d.tables
  .ok { tables }

def shape : Shape Draft where
  title := "SchemaModel"
  fields := ["tables"]
  enter := Draft.enter

def ofJson : Json → Decoded Schema :=
  shape.decode {} Draft.complete

end Schema

end Relational
