import Relational.Sql.Identifier
import Relational.Sql.LogicalType
import Relational.Sql.Reserved
import Relational.Text.Case

namespace Relational

inductive Dialect where
  | generic
  | oracle
  | postgres
  | mysql
  deriving DecidableEq, Repr

structure UnsupportedDialect where
  key : String
  deriving DecidableEq, Repr

def UnsupportedDialect.message (e : UnsupportedDialect) : String :=
  s!"Unsupported SQL dialect: {e.key}"

namespace Dialect

def all : List Dialect := [generic, oracle, postgres, mysql]

def name : Dialect → String
  | generic => "generic"
  | oracle => "oracle"
  | postgres => "postgres"
  | mysql => "mysql"

def aliases : Dialect → List String
  | generic => ["sql", "ansi"]
  | oracle => []
  | postgres => ["postgresql", "pg"]
  | mysql => ["mariadb"]

def ofKey (key : String) : Except UnsupportedDialect Dialect :=
  let plain := Text.lowercase (Text.trim key)
  match all.find? fun d => d.name == plain || plain ∈ d.aliases with
  | some d => .ok d
  | none => .error ⟨Text.trim key⟩

def quote : Dialect → String → String
  | generic => Sql.enquoteIfNeeded Sql.reservedWords
  | oracle => Sql.enquoteIfNeeded Sql.oracleReservedWords
  | postgres => Sql.enquote '"'
  | mysql => Sql.enquote '\x60'

def identityClause : Dialect → String
  | mysql => "AUTO_INCREMENT"
  | _ => "GENERATED BY DEFAULT AS IDENTITY"

def namesConstraints : Dialect → Bool
  | oracle => true
  | _ => false

def footer? : Dialect → Option String
  | oracle => some "COMMIT;\n"
  | _ => none

def oracleType? (t : LogicalType) : Option String :=
  match t.kind with
  | .smallInt => some "NUMBER(5)"
  | .integer => some "NUMBER"
  | .bigInt => some "NUMBER(19)"
  | .decimal => some (t.withArguments "NUMBER")
  | .float => some "BINARY_FLOAT"
  | .double => some "BINARY_DOUBLE"
  | .char => some (t.withArguments "CHAR")
  | .varchar => some (t.withLength "VARCHAR2" 255)
  | .text | .json => some "CLOB"
  | .boolean => some "NUMBER(1)"
  | .date => some "DATE"
  | .time => none
  | .timestamp => some "TIMESTAMP"
  | .binary => some "BLOB"
  | .uuid => some "RAW(16)"

def postgresType (t : LogicalType) : String :=
  match t.kind with
  | .smallInt => "SMALLINT"
  | .integer => "INTEGER"
  | .bigInt => "BIGINT"
  | .decimal => t.withArguments "NUMERIC"
  | .float => "REAL"
  | .double => "DOUBLE PRECISION"
  | .char => t.withArguments "CHAR"
  | .varchar => t.withArguments "VARCHAR"
  | .text => "TEXT"
  | .boolean => "BOOLEAN"
  | .date => "DATE"
  | .time => "TIME"
  | .timestamp => "TIMESTAMP"
  | .binary => "BYTEA"
  | .uuid => "UUID"
  | .json => "JSONB"

def mysqlType (t : LogicalType) : String :=
  match t.kind with
  | .smallInt => "SMALLINT"
  | .integer => "INT"
  | .bigInt => "BIGINT"
  | .decimal => t.withArguments "DECIMAL"
  | .float => "FLOAT"
  | .double => "DOUBLE"
  | .char => t.withArguments "CHAR"
  | .varchar => t.withLength "VARCHAR" 255
  | .text => "TEXT"
  | .boolean => "TINYINT(1)"
  | .date => "DATE"
  | .time => "TIME"
  | .timestamp => "DATETIME"
  | .binary => "BLOB"
  | .uuid => "CHAR(36)"
  | .json => "JSON"

def nativeType? (d : Dialect) (type : String) : Option String :=
  match d with
  | generic => some (Text.trim type)
  | oracle => (LogicalType.parse type).bind oracleType?
  | postgres => (LogicalType.parse type).map postgresType
  | mysql => (LogicalType.parse type).map mysqlType

end Dialect

end Relational
