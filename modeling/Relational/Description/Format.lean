import Relational.FileSystem.Path
import Relational.Text.Blank
import Relational.Text.Case

namespace Relational

inductive Format where
  | json
  | xml
  deriving DecidableEq, Repr

structure UnsupportedFormat where
  key : String
  deriving DecidableEq, Repr

def UnsupportedFormat.message (e : UnsupportedFormat) : String :=
  s!"Unsupported schema format: {e.key}"

namespace Format

def all : List Format := [json, xml]

def name : Format → String
  | json => "json"
  | xml => "xml"

def plainKey (key : String) : String :=
  let front := key.toList.takeWhile (· != ';')
  let lower := Text.lowercase (Text.trim (String.ofList front))
  String.ofList (lower.toList.dropWhile (· == '.'))

def ofKey (key : String) : Except UnsupportedFormat Format :=
  let plain := plainKey key
  if plain ∈ ["json", "application/json", "text/json"] then .ok json
  else if plain ∈ ["xml", "application/xml", "text/xml"] then .ok xml
  else .error ⟨Text.trim key⟩

def ofPath (path : String) : Except UnsupportedFormat Format :=
  match Path.extension? path with
  | some extension => ofKey extension
  | none => .error ⟨path⟩

end Format

end Relational
