import Relational.Sql.Dialect

namespace Relational.Sql

structure ColumnDefinition where
  name : String
  type : String
  identity : Bool
  deriving DecidableEq, Repr

structure PrimaryKey where
  constraint : Option String
  columns : List String
  deriving DecidableEq, Repr

structure Reference where
  constraint : Option String
  column : String
  table : String
  referencedColumn : String
  deriving DecidableEq, Repr

structure TableDefinition where
  name : String
  columns : List ColumnDefinition
  primaryKey : Option PrimaryKey
  references : List Reference
  deriving DecidableEq, Repr

structure Script where
  tables : List TableDefinition
  additions : List (String × Reference)
  deriving DecidableEq, Repr

variable (d : Dialect)

def ColumnDefinition.text (c : ColumnDefinition) : String :=
  let identity := if c.identity then " " ++ d.identityClause else ""
  d.quote c.name ++ " " ++ c.type ++ identity

def constraintText (name : Option String) : String :=
  match name with
  | some name => "CONSTRAINT " ++ d.quote name ++ " "
  | none => ""

def PrimaryKey.text (k : PrimaryKey) : String :=
  let columns := ", ".intercalate (k.columns.map d.quote)
  constraintText d k.constraint ++ "PRIMARY KEY (" ++ columns ++ ")"

def Reference.text (r : Reference) : String :=
  constraintText d r.constraint ++ "FOREIGN KEY (" ++ d.quote r.column ++ ") REFERENCES " ++
    d.quote r.table ++ "(" ++ d.quote r.referencedColumn ++ ")"

def TableDefinition.lines (t : TableDefinition) : List String :=
  t.columns.map (·.text d) ++ t.primaryKey.toList.map (·.text d) ++ t.references.map (·.text d)

def TableDefinition.text (t : TableDefinition) : String :=
  "CREATE TABLE " ++ d.quote t.name ++ " (\n" ++
    ",\n".intercalate ((t.lines d).map ("    " ++ ·)) ++ "\n);\n\n"

def additionText (table : String) (r : Reference) : String :=
  "ALTER TABLE " ++ d.quote table ++ " ADD " ++ r.text d ++ ";\n\n"

def Script.text (s : Script) : String :=
  String.join (s.tables.map (·.text d)) ++
    String.join (s.additions.map fun (table, r) => additionText d table r) ++ d.footer?.getD ""

end Relational.Sql
