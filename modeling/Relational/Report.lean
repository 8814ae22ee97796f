import Relational.Description.Format
import Relational.Schema.Basic
import Relational.Sql.Dialect

namespace Relational.Report

def onlyIf (condition : Bool) (text : String) : String :=
  if condition then text else ""

def columnLine (c : Column) : String :=
  s!"    - {c.name} ({c.type})" ++ onlyIf c.primaryKey " [PK]" ++
    onlyIf c.autoIncrement " [auto-increment]" ++ "\n"

def relationshipLine (r : Relationship) : String :=
  let via := match r.throughTable with
    | some t => s!" via {t}"
    | none => ""
  s!"    - {r.kind.name} {r.foreignKey} → {r.relatedTable}.{r.relatedForeignKey}{via}\n"

def table (t : Table) (place : Nat) : String :=
  s!"\nTable {place}: {t.name}" ++ onlyIf t.joinTable " (join table)" ++ "\n" ++
    s!"  Columns: {t.columns.length}\n" ++ String.join (t.columns.map columnLine) ++
    onlyIf (!t.relationships.isEmpty)
      ("  Relationships:\n" ++ String.join (t.relationships.map relationshipLine))

def schema (s : Schema) : String :=
  let origin := match s.source with
    | some path => s!" from {path}"
    | none => ""
  s!"✅ Parsed {s.tables.length} table(s){origin}:\n" ++
    String.join ((s.tables.zipIdx 1).map fun (t, place) => table t place)

def dialectLine (d : Dialect) : String :=
  let aliases := ", ".intercalate d.aliases
  s!"  - {d.name}" ++ onlyIf (!d.aliases.isEmpty) s!" (aliases: {aliases})" ++ "\n"

def registry : String :=
  "Input formats:\n" ++ String.join (Format.all.map fun f => s!"  - {f.name}\n") ++
    "\nDialects:\n" ++ String.join (Dialect.all.map dialectLine)

end Relational.Report
