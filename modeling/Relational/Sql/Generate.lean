import Relational.Plan.Basic
import Relational.Sql.Script

namespace Relational

inductive ScriptError where
  | plan (error : PlanError)
  | unmappedType (table column type : String) (dialect : Dialect)
  | noColumns (table : String)
  | emptyTableName
  deriving DecidableEq, Repr

namespace ScriptError

def message : ScriptError → String
  | plan error => error.message
  | unmappedType table column type dialect =>
    s!"Column '{column}' in table '{table}' has type '{type}', which has no {dialect.name} mapping"
  | noColumns table => s!"Table '{table}' has no columns"
  | emptyTableName => "Table name cannot be empty"

end ScriptError

namespace Sql

abbrev UsedNames := List String

variable (d : Dialect)

def nameConstraint (used : UsedNames) (base : String) : Option String × UsedNames :=
  if d.namesConstraints then
    let name := Text.freeName id used base
    (some name, name :: used)
  else (none, used)

def defineColumn (table : Table) (c : Column) : Except ScriptError ColumnDefinition :=
  match d.nativeType? c.type with
  | some type => .ok { name := c.name, type, identity := c.autoIncrement }
  | none => .error (.unmappedType table.name c.name c.type d)

def definePrimaryKey (used : UsedNames) (t : Table) : Option PrimaryKey × UsedNames :=
  match t.primaryKey with
  | [] => (none, used)
  | columns =>
    let (constraint, used) := nameConstraint d used ("pk_" ++ t.name)
    (some { constraint, columns := columns.map (·.name) }, used)

def defineReference (used : UsedNames) (k : ForeignKey) : Reference × UsedNames :=
  let (constraint, used) := nameConstraint d used ("fk_" ++ k.table ++ "_" ++ k.referencedTable)
  let column := k.column
  let table := k.referencedTable
  ({ constraint, column, table, referencedColumn := k.referencedColumn }, used)

def defineReferences (used : UsedNames) : List ForeignKey → List Reference × UsedNames
  | [] => ([], used)
  | k :: keys =>
    let (r, used) := defineReference d used k
    let (rs, used) := defineReferences used keys
    (r :: rs, used)

def defineTable (used : UsedNames) (c : Creation) :
    Except ScriptError (TableDefinition × UsedNames) :=
  if Text.isBlankText c.table.name then .error .emptyTableName
  else if c.table.columns.isEmpty then .error (.noColumns c.table.name)
  else do
    let columns ← c.table.columns.mapM (defineColumn d c.table)
    let (primaryKey, used) := definePrimaryKey d used c.table
    let (references, used) := defineReferences d used c.keys
    .ok ({ name := c.table.name, columns, primaryKey, references }, used)

def defineTables (used : UsedNames) :
    List Creation → Except ScriptError (List TableDefinition × UsedNames)
  | [] => .ok ([], used)
  | c :: rest => do
    let (t, used) ← defineTable d used c
    let (ts, used) ← defineTables used rest
    .ok (t :: ts, used)

end Sql

def Plan.script (d : Dialect) (p : Plan) : Except ScriptError Sql.Script := do
  let (tables, used) ← Sql.defineTables d [] p.creations
  let (references, _) := Sql.defineReferences d used p.deferred
  .ok { tables, additions := (p.deferred.map (·.table)).zip references }

def Schema.generate (d : Dialect) (s : Schema) : Except ScriptError String := do
  let plan ← s.plan.mapError .plan
  let script ← plan.script d
  .ok (script.text d)

end Relational
