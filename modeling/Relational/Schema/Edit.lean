import Relational.Schema.Basic

namespace Relational

inductive EditError where
  | duplicateTable (table : String)
  | tableNotFound (table : String)
  | duplicateColumn (table column : String)
  | columnNotFound (table column : String)
  | relationshipNotFound (table related : String)
  deriving DecidableEq, Repr

namespace EditError

def message : EditError → String
  | duplicateTable table => s!"Table '{table}' already exists"
  | tableNotFound table => s!"Table '{table}' not found"
  | duplicateColumn table column => s!"Column '{column}' already exists in table '{table}'"
  | columnNotFound table column => s!"Column '{column}' not found in table '{table}'"
  | relationshipNotFound table related => s!"No relationship from '{table}' to '{related}'"

end EditError

abbrev Edited := Except EditError

def changeFirst? {α : Type} (p : α → Bool) (f : α → α) : List α → Option (List α)
  | [] => none
  | a :: rest => if p a then some (f a :: rest) else (changeFirst? p f rest).map (a :: ·)

def changeFirst {α : Type} (p : α → Bool) (f : α → α) (items : List α) : List α :=
  (changeFirst? p f items).getD items

def renamed (old new name : String) : String :=
  if name = old then new else name

def Relationship.rename (r : Relationship) (old new : String) : Relationship :=
  { r with
    relatedTable := renamed old new r.relatedTable
    throughTable := r.throughTable.map (renamed old new) }

def Table.renameMentions (t : Table) (old new : String) : Table :=
  { t with relationships := t.relationships.map (·.rename old new) }

namespace Schema

variable (s : Schema)

def modifyTable? (name : String) (f : Table → Table) : Option Schema :=
  (changeFirst? (·.name == name) f s.tables).map fun tables => { s with tables }

def modifyTables (f : Table → Table) : Schema :=
  { s with tables := s.tables.map f }

end Schema

-- A change that is made in place. It may be refused after a part of it has been made, so the schema
-- that a refused change leaves behind is part of its result.
abbrev Change := EStateM EditError Schema

namespace Change

def existingTable (name : String) : Change Table := do
  match (← get).table? name with
  | some t => return t
  | none => throw (.tableNotFound name)

def changeTable (name : String) (f : Table → Table) : Change Unit :=
  modify fun s => (s.modifyTable? name f).getD s

def addTable (t : Table) : Change Unit := do
  if (← get).hasTable t.name then throw (.duplicateTable t.name)
  else modify fun s => { s with tables := s.tables ++ [t] }

def removeTable (name : String) : Change Table := do
  let t ← existingTable name
  modify fun s => { s with tables := s.tables.eraseP (·.name == name) }
  return t

def renameTable (old new : String) : Change Unit := do
  if old = new then return ()
  else if (← get).hasTable new then throw (.duplicateTable new)
  else do
    let _ ← existingTable old
    changeTable old fun t => { t with name := new }
    modify (·.modifyTables (·.renameMentions old new))

def addColumn (table : String) (c : Column) : Change Unit := do
  let t ← existingTable table
  if t.hasColumn c.name then throw (.duplicateColumn table c.name)
  else changeTable table fun t => { t with columns := t.columns ++ [c] }

def removeColumn (table column : String) : Change Column := do
  let t ← existingTable table
  match t.column? column with
  | none => throw (.columnNotFound table column)
  | some c => do
    changeTable table fun t => { t with columns := t.columns.eraseP (·.name == column) }
    return c

def replaceColumn (table column : String) (c : Column) : Change Column := do
  let t ← existingTable table
  if c.name ≠ column ∧ t.hasColumn c.name then throw (.duplicateColumn table c.name)
  else
    match t.column? column with
    | none => throw (.columnNotFound table column)
    | some previous => do
      changeTable table fun t =>
        { t with columns := changeFirst (·.name == column) (fun _ => c) t.columns }
      return previous

def addRelationship (table : String) (r : Relationship) : Change Unit := do
  let _ ← existingTable table
  changeTable table fun t => { t with relationships := t.relationships ++ [r] }
  modify Schema.markThroughTables

-- Removes all relationships of a table with another one; gives how many there were, which may not
-- be none. How many there were shows only when they are gone.
def removeRelationships (table related : String) : Change Nat := do
  let t ← existingTable table
  let kept := t.relationships.filter (·.relatedTable != related)
  changeTable table fun t => { t with relationships := kept }
  let removed := t.relationships.length - kept.length
  if removed = 0 then throw (.relationshipNotFound table related) else return removed

def replaceRelationship (table related : String) (r : Relationship) : Change Relationship := do
  let t ← existingTable table
  match t.relationships.find? (·.relatedTable == related) with
  | none => throw (.relationshipNotFound table related)
  | some previous => do
    changeTable table fun t =>
      { t with
        relationships := changeFirst (·.relatedTable == related) (fun _ => r) t.relationships }
    modify Schema.markThroughTables
    return previous

def applyTo {α : Type} (s : Schema) (c : Change α) : Edited (α × Schema) :=
  match c.run s with
  | .ok a s => .ok (a, s)
  | .error e _ => .error e

end Change

namespace Schema

variable (s : Schema)

def addTable (t : Table) : Edited Schema :=
  (Change.addTable t).applyTo s |>.map (·.2)

def removeTable (name : String) : Edited (Table × Schema) :=
  (Change.removeTable name).applyTo s

def renameTable (old new : String) : Edited Schema :=
  (Change.renameTable old new).applyTo s |>.map (·.2)

def addColumn (table : String) (c : Column) : Edited Schema :=
  (Change.addColumn table c).applyTo s |>.map (·.2)

def removeColumn (table column : String) : Edited (Column × Schema) :=
  (Change.removeColumn table column).applyTo s

def replaceColumn (table column : String) (c : Column) : Edited (Column × Schema) :=
  (Change.replaceColumn table column c).applyTo s

def addRelationship (table : String) (r : Relationship) : Edited Schema :=
  (Change.addRelationship table r).applyTo s |>.map (·.2)

def removeRelationships (table related : String) : Edited (Nat × Schema) :=
  (Change.removeRelationships table related).applyTo s

def replaceRelationship (table related : String) (r : Relationship) :
    Edited (Relationship × Schema) :=
  (Change.replaceRelationship table related r).applyTo s

end Schema

end Relational
