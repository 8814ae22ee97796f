import Relational.CommandLine.Arguments
import Relational.Conversion
import Relational.Report
import Relational.Schema.Stored

namespace Relational.CommandLine

structure Outcome where
  code : Nat := 0
  output : String := ""
  reports : String := ""
  deriving DecidableEq, Repr

inductive CommandError where
  | invalidArgument (text : String)
  | unreadable (path : String) (fault : FileFault)
  | conversion (error : ConversionError)

namespace CommandError

def message : CommandError → String
  | invalidArgument text => s!"Invalid argument: {text}"
  | unreadable path fault => s!"Failed to read {path}: {fault.message}"
  | conversion e => e.userMessage

end CommandError

def GenerateArguments.apply (a : GenerateArguments) (s : Settings) : Settings where
  dialect := a.dialect.getD s.dialect
  format := a.format.or s.format
  output := a.output.or s.output
  verbose := a.verbose || s.verbose

structure Input where
  bytes : ByteArray
  path : Option String

namespace Input

def formatKey (i : Input) (given : Option String) : Except CommandError String :=
  match given, i.path with
  | some key, _ => .ok key
  | none, some path =>
    match Format.ofPath path with
    | .ok f => .ok f.name
    | .error _ =>
      .error (.invalidArgument
        s!"Cannot determine the format of {path}; pass --format json or --format xml")
  | none, none => .error (.invalidArgument "--format is required when reading from stdin")

def mark (i : Input) (s : Schema) : Schema :=
  { s with source := i.path.or s.source }

end Input

abbrev Command (m : Type → Type) := ExceptT CommandError m

open MonadExcept (ofExcept)

section

variable {m : Type → Type} [Monad m] [Files m]

def converting {α : Type} (work : FileWork m α) : Command m α :=
  ExceptT.mk (return (← work.run).mapError .conversion)

def loadInput (stdin : ByteArray) (name : String) : Command m Input := do
  if name = "-" then return { bytes := stdin, path := none }
  else
    match ← (Files.read name : m _) with
    | .ok bytes => return { bytes, path := some name }
    | .error fault => throw (.unreadable name fault)

def GenerateArguments.settings (a : GenerateArguments) : Command m Settings := do
  let base ← match a.settingsFile with
    | some path => converting (Settings.load path)
    | none => pure {}
  return a.apply base

def generateReport (c : Conversion) (written : Option String) : String :=
  let source := c.schema.source.getD "stdin"
  let count := c.schema.tables.length
  let place := match written with
    | some path => s!"Script written to {path}\n"
    | none => ""
  s!"Generated {c.dialect.name} script for {count} table(s) from {source}\n" ++ place

def produce (stdin : ByteArray) (settings : Settings) (name : String) :
    Command m (Conversion × Option String) := do
  let input ← loadInput stdin name
  let key ← ofExcept (input.formatKey settings.format)
  let converter ← ofExcept ((Converter.ofSettings settings).mapError .conversion)
  let result ← ofExcept ((converter.convert input.bytes key).mapError .conversion)
  let result := { result with schema := input.mark result.schema }
  let written ← converting (converter.writeOutput result)
  return (result, written)

def generate (stdin : ByteArray) (a : GenerateArguments) : Command m Outcome := do
  let settings ← a.settings
  let (result, written) ← produce stdin settings a.input
  return {
    output := if written.isNone then result.script else ""
    reports := if settings.verbose then generateReport result written else "" }

def planReport (s : Schema) : String :=
  match s.plan with
  | .error e => s!"\n⚠️  {e.message}\n"
  | .ok p =>
    let list (names : List String) : String := ", ".intercalate names
    let joins := p.synthesized.map (·.name)
    let synthesized :=
      if joins.isEmpty then "" else s!"\nJoin tables to be synthesized: {list joins}\n"
    let order := " -> ".intercalate p.tableNames
    let cycles := p.cycles.map fun names => s!"⚠️  Foreign-key cycle: {list names}\n"
    synthesized ++ s!"Creation order: {order}\n" ++ String.join cycles

def inspect (stdin : ByteArray) (a : InspectArguments) : Command m Outcome := do
  let input ← loadInput stdin a.input
  let key ← ofExcept (input.formatKey a.format)
  let s ← ofExcept ((Converter.readSchema input.bytes key).mapError .conversion)
  let s := input.mark s
  return { output := if a.json then s.toJsonText else Report.schema s ++ planReport s }

end

def versionText : String := "schema2script 0.1.0\n"

def Invocation.run {m : Type → Type} [Monad m] [Files m] (stdin : ByteArray) :
    Invocation → Command m Outcome
  | .generate a => CommandLine.generate stdin a
  | .inspect a => CommandLine.inspect stdin a
  | .formats => return { output := Report.registry }
  | .version => return { output := versionText }

def usage : String :=
  "usage: generate INPUT [-f FORMAT] [-d DIALECT] [-o OUTPUT] [-c CONFIG] [-v]\n" ++
    "       inspect INPUT [-f FORMAT] [--json]\n" ++
    "       formats\n"

def run {m : Type → Type} [Monad m] [Files m] (stdin : ByteArray) (words : List String) :
    m Outcome := do
  match Invocation.ofWords? words with
  | none => return { code := 2, reports := usage }
  | some invocation =>
    match ← (invocation.run stdin : Command m Outcome).run with
    | .ok outcome => return outcome
    | .error e => return { code := 1, reports := s!"Error: {e.message}\n" }

end Relational.CommandLine
