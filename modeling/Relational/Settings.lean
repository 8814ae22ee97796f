import Relational.Description.Format
import Relational.Sql.Dialect
import Relational.Toml.Parser

namespace Relational

structure Settings where
  dialect : String := Dialect.generic.name
  format : Option String := none
  output : Option String := none
  verbose : Bool := false
  deriving DecidableEq, Repr

namespace Settings

def textEntry (key : String) (entries : Toml.Entries) : Option (Option String) :=
  match entries.lookup key with
  | none => some none
  | some (.text s) => some (some s)
  | some _ => none

def flagEntry (key : String) (entries : Toml.Entries) : Option (Option Bool) :=
  match entries.lookup key with
  | none => some none
  | some (.boolean b) => some (some b)
  | some _ => none

def ofText? (text : String) : Option Settings := do
  let entries ← Toml.parse text
  let dialect ← textEntry "dialect" entries
  let format ← textEntry "format" entries
  let output ← textEntry "output" entries
  let verbose ← flagEntry "verbose" entries
  let standard : Settings := {}
  some {
    format, output
    dialect := dialect.getD standard.dialect
    verbose := verbose.getD standard.verbose }

def check (s : Settings) : Except String Dialect :=
  match Dialect.ofKey s.dialect, s.format.map Format.ofKey with
  | .error e, _ =>
    let known := ", ".intercalate (Dialect.all.map (·.name))
    .error s!"{e.message} (expected one of: {known})"
  | .ok _, some (.error e) =>
    let known := ", ".intercalate (Format.all.map (·.name))
    .error s!"{e.message} (expected one of: {known})"
  | .ok d, _ => .ok d

end Settings

end Relational
