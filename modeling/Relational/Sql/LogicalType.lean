import Relational.Numeral.Digits
import Relational.Text.Blank

namespace Relational

inductive TypeKind where
  | smallInt
  | integer
  | bigInt
  | decimal
  | float
  | double
  | char
  | varchar
  | text
  | boolean
  | date
  | time
  | timestamp
  | binary
  | uuid
  | json
  deriving DecidableEq, Repr

namespace TypeKind

def all : List TypeKind :=
  [smallInt, integer, bigInt, decimal, float, double, char, varchar, text, boolean, date, time,
    timestamp, binary, uuid, json]

def keywords : TypeKind → List String
  | smallInt => ["smallint", "int2", "tinyint"]
  | integer => ["int", "integer", "int4", "mediumint"]
  | bigInt => ["bigint", "int8", "long"]
  | decimal => ["decimal", "numeric", "number"]
  | float => ["float", "real", "float4"]
  | double => ["double", "double precision", "float8"]
  | char => ["char", "character"]
  | varchar => ["varchar", "character varying", "string", "varchar2", "nvarchar"]
  | text => ["text", "clob", "longtext"]
  | boolean => ["boolean", "bool", "bit"]
  | date => ["date"]
  | time => ["time"]
  | timestamp => ["timestamp", "datetime"]
  | binary => ["blob", "binary", "varbinary", "bytea"]
  | uuid => ["uuid"]
  | json => ["json", "jsonb"]

def ofKeyword? (base : String) : Option TypeKind :=
  all.find? fun kind => base ∈ kind.keywords

end TypeKind

-- `size` is the length of a character type or the precision of a decimal one; `scale` comes only
-- after it.
structure LogicalType where
  kind : TypeKind
  size : Option Nat := none
  scale : Option Nat := none
  deriving DecidableEq, Repr

namespace LogicalType

def isLetter (c : Char) : Bool :=
  ('a' ≤ c && c ≤ 'z') || ('A' ≤ c && c ≤ 'Z')

def isBaseChar (c : Char) : Bool :=
  isLetter c || Numeral.isDigit c || c == ' ' || c == '_'

def plainBase (cs : List Char) : String :=
  " ".intercalate ((Text.fields (· == ' ') cs).map fun w => String.ofList (w.map Char.toLower))

def readSize? (cs : List Char) : Option Nat :=
  (Numeral.read? (Text.trimChars cs)).filter (· ≤ Numeral.max32)

def readArguments? (cs : List Char) : Option (Option Nat × Option Nat) :=
  match Text.trimChars cs with
  | [] => some (none, none)
  | '(' :: inner =>
    match inner.getLast?, inner.dropLast with
    | some ')', arguments =>
      let first := arguments.takeWhile (· != ',')
      match arguments.dropWhile (· != ',') with
      | [] => (readSize? first).map fun size => (some size, none)
      | _ :: second => do
        let size ← readSize? first
        let scale ← readSize? second
        some (some size, some scale)
    | _, _ => none
  | _ => none

def parse (type : String) : Option LogicalType :=
  let cs := type.toList.dropWhile Text.isBlank
  if (cs.head?.map isLetter).getD false then do
    let kind ← TypeKind.ofKeyword? (plainBase (cs.takeWhile isBaseChar))
    let (size, scale) ← readArguments? (cs.dropWhile isBaseChar)
    some { kind, size, scale }
  else none

def withArguments (t : LogicalType) (base : String) : String :=
  match t.size, t.scale with
  | some size, some scale => s!"{base}({size},{scale})"
  | some size, none => s!"{base}({size})"
  | none, _ => base

def withLength (t : LogicalType) (base : String) (standard : Nat) : String :=
  s!"{base}({t.size.getD standard})"

end LogicalType

end Relational
