import Relational.Schema.Basic

namespace Relational

-- A table that repeats the name of an earlier one; positions count from 0 in order of declaration.
structure NamingConflict where
  name : String
  first : Nat
  duplicate : Nat
  deriving DecidableEq, Repr

inductive NamingError where
  | emptyTableName
  | emptyColumnName (table : String)
  | emptyColumnType (table column : String)
  | duplicateTable (conflict : NamingConflict)
  | duplicateColumn (table column : String)
  deriving DecidableEq, Repr

namespace NamingError

def message : NamingError → String
  | emptyTableName => "Table name cannot be empty"
  | emptyColumnName table => s!"Column name cannot be empty in table '{table}'"
  | emptyColumnType table column => s!"Column '{column}' in table '{table}' has an empty type"
  | duplicateTable c =>
    s!"Duplicate table name '{c.name}' (tables {c.first + 1} and {c.duplicate + 1})"
  | duplicateColumn table column => s!"Duplicate column '{column}' in table '{table}'"

end NamingError

namespace Table

def checkColumns (table : String) (seen : List String) : List Column → Except NamingError Unit
  | [] => .ok ()
  | c :: rest =>
    if Text.isBlankText c.name then .error (.emptyColumnName table)
    else if Text.isBlankText c.type then .error (.emptyColumnType table c.name)
    else if c.name ∈ seen then .error (.duplicateColumn table c.name)
    else checkColumns table (c.name :: seen) rest

def checkNames (t : Table) : Except NamingError Unit :=
  if Text.isBlankText t.name then .error .emptyTableName else checkColumns t.name [] t.columns

end Table

def namingConflictsAfter (before : List String) : List Table → List NamingConflict
  | [] => []
  | t :: rest =>
    let later := namingConflictsAfter (before ++ [t.name]) rest
    match before.idxOf? t.name with
    | some first => ⟨t.name, first, before.length⟩ :: later
    | none => later

def namingConflicts (tables : List Table) : List NamingConflict :=
  namingConflictsAfter [] tables

def checkNames (tables : List Table) : Except NamingError Unit := do
  tables.forM Table.checkNames
  match namingConflicts tables with
  | [] => .ok ()
  | conflict :: _ => .error (.duplicateTable conflict)

end Relational
