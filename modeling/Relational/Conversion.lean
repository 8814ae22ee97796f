import Relational.Description.Read
import Relational.FileSystem.Basic
import Relational.Settings
import Relational.Sql.Generate

namespace Relational

inductive FileActivity where
  | readingSettings
  | readingSchema
  | makingDirectory
  | writingScript
  deriving DecidableEq, Repr

def FileActivity.text : FileActivity → String
  | readingSettings => "reading configuration"
  | readingSchema => "reading schema"
  | makingDirectory => "creating output directory"
  | writingScript => "writing script"

inductive ConversionError where
  | settings (text : String)
  | settingsFile
  | format (error : UnsupportedFormat)
  | description (error : DescriptionError)
  | script (error : ScriptError)
  | file (path : String) (activity : FileActivity) (fault : FileFault)

namespace ConversionError

def message : ConversionError → String
  | settings text => s!"Configuration error: {text}"
  | settingsFile => "Invalid configuration file: not TOML, or a setting of the wrong type"
  | format e => e.message
  | description e => s!"Failed to parse schema: {e.message}"
  | script e => s!"Failed to generate script: {e.message}"
  | file path activity _ => s!"IO error with {path}: {activity.text}"

def stage? : ConversionError → Option String
  | format _ | description _ => some "parse"
  | script _ => some "generate"
  | _ => none

def userMessage (e : ConversionError) : String :=
  match e with
  | settings _ => s!"{e.message}\n\nHint: Check your configuration file."
  | format _ => s!"{e.message}\n\nHint: Use --format json or --format xml."
  | script (.unmappedType ..) => s!"{e.message}\n\nHint: The generic dialect accepts any type name."
  | file path activity fault =>
    s!"Cannot access {path} while {activity.text}: {fault.message}" ++
      "\n\nHint: Check that the file exists and the path is correct."
  | _ => e.message

end ConversionError

structure Conversion where
  schema : Schema
  dialect : Dialect
  script : String

structure Converter where
  settings : Settings
  dialect : Dialect

namespace Converter

def ofSettings (s : Settings) : Except ConversionError Converter :=
  match s.check with
  | .ok dialect => .ok { settings := s, dialect }
  | .error text => .error (.settings text)

variable (c : Converter)

def readSchema (bytes : ByteArray) (key : String) : Except ConversionError Schema := do
  let format ← (Format.ofKey key).mapError .format
  (Schema.read format bytes).mapError .description

def generate (s : Schema) : Except ConversionError Conversion := do
  let script ← (s.generate c.dialect).mapError .script
  .ok { schema := s, dialect := c.dialect, script }

def convert (bytes : ByteArray) (key : String) : Except ConversionError Conversion := do
  let s ← readSchema bytes key
  c.generate s

def formatOf (path : String) : Except ConversionError Format :=
  match c.settings.format with
  | some key => (Format.ofKey key).mapError .format
  | none => (Format.ofPath path).mapError .format

def convertContent (path : String) (format : Format) (bytes : ByteArray) :
    Except ConversionError Conversion := do
  let s ← readSchema bytes format.name
  c.generate { s with source := some path }

end Converter

abbrev FileWork (m : Type → Type) := ExceptT ConversionError m

def accessing {m : Type → Type} [Monad m] {α : Type} (path : String) (activity : FileActivity)
    (access : m (Except FileFault α)) : FileWork m α := do
  match ← access with
  | .ok a => return a
  | .error fault => throw (.file path activity fault)

section

open MonadExcept (ofExcept)

variable {m : Type → Type} [Monad m] [Files m]

def Settings.load (path : String) : FileWork m Settings := do
  let bytes ← accessing path .readingSettings (Files.read path)
  match String.fromUTF8? bytes with
  | none => throw (.file path .readingSettings .notUtf8)
  | some text =>
    match Settings.ofText? text with
    | some s => return s
    | none => throw .settingsFile

def Converter.convertFile (c : Converter) (path : String) : FileWork m Conversion := do
  let format ← ofExcept (c.formatOf path)
  let bytes ← accessing path .readingSchema (Files.read path)
  ofExcept (c.convertContent path format bytes)

def Converter.writeOutput (c : Converter) (result : Conversion) : FileWork m (Option String) := do
  match c.settings.output with
  | none => return none
  | some path => do
    match (Path.parent? path).filter (· ≠ "") with
    | some parent => accessing parent .makingDirectory (Files.makeDirectories parent)
    | none => pure ()
    accessing path .writingScript (Files.write path result.script.toUTF8)
    return some path

end

def generateScript (bytes : ByteArray) (format dialect : String) :
    Except ConversionError String := do
  let c ← Converter.ofSettings { dialect }
  let result ← c.convert bytes format
  .ok result.script

end Relational
