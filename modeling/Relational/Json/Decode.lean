import Relational.Json.Printer
import Relational.Text.Escape

namespace Relational.Json

inductive DecodeError where
  | wrongType (found : Json) (wanted : String)
  | repeatedField (name : String)
  | missingField (name : String)
  | tooFew (found : Nat) (title : String) (fields : Nat)
  | tooMany (found : Nat)
  | badFlag (found : Json)
  | unknownVariant (found : String) (known : List String)
  | notOneMember

def describe : Json → String
  | null => "null"
  | bool b => s!"boolean `{b}`"
  | integer n => s!"integer `{n}`"
  | v@(real _ _) => s!"floating point `{String.ofList v.compact}`"
  | text s => s!"string {Text.quoted s}"
  | array _ => "sequence"
  | object _ => "map"

def alternatives : List String → String
  | [] => ""
  | [a] => s!"`{a}`"
  | [a, b] => s!"`{a}` or `{b}`"
  | names => "one of " ++ ", ".intercalate (names.map fun a => s!"`{a}`")

namespace DecodeError

def message : DecodeError → String
  | wrongType found wanted => s!"invalid type: {describe found}, expected {wanted}"
  | repeatedField name => s!"duplicate field `{name}`"
  | missingField name => s!"missing field `{name}`"
  | tooFew found title fields =>
    let elements := if fields = 1 then "element" else "elements"
    s!"invalid length {found}, expected struct {title} with {fields} {elements}"
  | tooMany found => s!"invalid length {found}, expected fewer elements in array"
  | badFlag (.text s) => s!"invalid boolean flag: \"{s}\""
  | badFlag found => s!"invalid boolean flag: {found.toCompactText}"
  | unknownVariant found known => s!"unknown variant `{found}`, expected {alternatives known}"
  | notOneMember => "invalid value: map, expected map with a single key"

end DecodeError

abbrev Decoded := Except DecodeError

def decodeText : Json → Decoded String
  | text s => .ok s
  | v => .error (.wrongType v "a string")

def decodeBool : Json → Decoded Bool
  | bool b => .ok b
  | v => .error (.wrongType v "a boolean")

def decodeList {α : Type} (decode : Json → Decoded α) : Json → Decoded (List α)
  | array items => items.mapM decode
  | v => .error (.wrongType v "a sequence")

def decodeOption {α : Type} (decode : Json → Decoded α) : Json → Decoded (Option α)
  | null => .ok none
  | v => (decode v).map some

-- The fields of a record by name, in order of declaration, and how the value of a field enters a
-- draft of the record. A name that is no field is passed over.
structure Shape (δ : Type) where
  title : String
  fields : List String
  enter : String → Json → δ → Decoded δ

def fillOnce {α : Type} (field : String) (decode : Json → Decoded α) (now : Option α) (v : Json) :
    Decoded (Option α) :=
  if now.isSome then .error (.repeatedField field) else (decode v).map some

abbrev Absent := String → DecodeError

def Shape.decode {δ α : Type} (shape : Shape δ) (blank : δ) (complete : Absent → δ → Decoded α) :
    Json → Decoded α
  | object members => do
    let draft ← members.foldlM (fun d (key, v) => shape.enter key v d) blank
    complete .missingField draft
  | array items => do
    let draft ← (shape.fields.zip items).foldlM (fun d (key, v) => shape.enter key v d) blank
    let absent (field : String) : DecodeError :=
      .tooFew (shape.fields.idxOf field) shape.title shape.fields.length
    let record ← complete absent draft
    if shape.fields.length < items.length then .error (.tooMany items.length) else .ok record
  | v => .error (.wrongType v s!"struct {shape.title}")

def required {α : Type} (absent : Absent) (field : String) : Option α → Decoded α
  | some a => .ok a
  | none => .error (absent field)

end Relational.Json
