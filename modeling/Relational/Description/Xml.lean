import Relational.Description.Record
import Relational.Xml.Attribute

namespace Relational.Description

open Xml (Tag Event Fault Attribute AttributeFault)

inductive XmlError where
  | notUtf8
  | malformed (position : Nat) (fault : Fault)
  | malformedInside (element : String) (fault : Fault)
  | malformedAttribute (element : String) (fault : AttributeFault)
  | afterRoot (element : String)
  | nestedTable (table : String)
  | outsideTable (element : String)
  | missingAttribute (name element : String) (table : Option String)
  | badFlag (value name element : String)
  | noRoot
  | openTable (table : String)
  | openDocument

namespace XmlError

def message : XmlError → String
  | notUtf8 => "Error reading the XML schema: input is not valid UTF-8"
  | malformed position fault => s!"Malformed XML at position {position}: {fault.message}"
  | malformedInside element fault => s!"Malformed XML inside <{element}>: {fault.message}"
  | malformedAttribute element fault => s!"Malformed attribute on <{element}>: {fault.message}"
  | afterRoot element => s!"Invalid XML format: <{element}> found after the root element"
  | nestedTable table => s!"Invalid XML format: nested <table> inside table '{table}'"
  | outsideTable element => s!"Invalid XML format: <{element}> must appear inside a <table>"
  | missingAttribute name element none => s!"Missing attribute '{name}' on <{element}>"
  | missingAttribute name element (some table) =>
    s!"Missing attribute '{name}' on <{element}> in table: {table}"
  | badFlag value name element =>
    s!"Invalid boolean value '{value}' for attribute '{name}' on <{element}>"
  | noRoot => "Invalid XML format: document has no root element"
  | openTable table => s!"Invalid XML format: table '{table}' is not terminated"
  | openDocument => "Invalid XML format: unexpected end of document"

def isMalformed : XmlError → Bool
  | notUtf8 | malformed .. | malformedInside .. | malformedAttribute .. => true
  | _ => false

end XmlError

def localChars (name : List Char) : List Char :=
  match name.dropWhile (· != ':') with
  | _ :: rest => rest
  | [] => name

def elementName (name : String) : String :=
  Text.lowercase (String.ofList (localChars name.toList))

def attributeKey (name : String) : String :=
  Text.lowercaseEach (String.ofList ((localChars name.toList).filter fun c => c != '-' && c != '_'))

-- The values of the attributes of an element by key, the last one of a key counting.
abbrev Attributes := List (String × String)

namespace Attributes

def read (element : String) (tag : Tag) : Except XmlError Attributes :=
  match tag.readAttributes with
  | .ok attributes => .ok (attributes.map fun a => (attributeKey a.name, a.value)).reverse
  | .error fault => .error (.malformedAttribute element fault)

variable (a : Attributes)

def get? (keys : List String) : Option String :=
  keys.findSome? fun key => a.lookup key

-- A value that has to be there and not to be blank; the first key names it in errors.
def required (element : String) (table : Option String) (keys : List String) :
    Except XmlError String :=
  let missing := XmlError.missingAttribute (keys.headD "") element table
  match a.get? keys with
  | some value => if Text.isBlankText value then .error missing else .ok value
  | none => .error missing

-- An attribute without text is a flag that is set.
def flag (element : String) (keys : List String) : Except XmlError Bool :=
  match a.get? keys with
  | none => .ok false
  | some value =>
    if Text.isBlankText value then .ok true
    else
      match flagOfText? value with
      | some b => .ok b
      | none => .error (.badFlag value (keys.headD "") element)

end Attributes

def tableOf (tag : Tag) : Except XmlError TableRecord := do
  let a ← Attributes.read "table" tag
  let name ← a.required "table" none ["name", "tablename"]
  let joinTable ← a.flag "table" ["jointable", "isjointable"]
  .ok { name, joinTable }

def columnOf (table : String) (tag : Tag) : Except XmlError ColumnRecord := do
  let a ← Attributes.read "column" tag
  let name ← a.required "column" (some table) ["name"]
  let type ← a.required "column" (some table) ["type", "datatype"]
  let primaryKey ← a.flag "column" ["primarykey"]
  let autoIncrement ← a.flag "column" ["autoincrement"]
  .ok { name, type, primaryKey, autoIncrement }

def relationshipOf (table : String) (tag : Tag) : Except XmlError RelationshipRecord := do
  let a ← Attributes.read "relationship" tag
  let relatedTable ← a.required "relationship" (some table) ["relatedtable"]
  let foreignKey ← a.required "relationship" (some table) ["foreignkey"]
  let junction ← a.flag "relationship" ["junction"]
  .ok {
    relatedTable, foreignKey, junction
    kind := a.get? ["type", "kind", "relationshiptype"]
    relatedForeignKey := a.get? ["relatedforeignkey"]
    throughTable := a.get? ["throughtable"] }

-- An element that is passed over: how errors name it, its name as written, and the elements open
-- inside it.
structure Skipped where
  element : String
  name : String
  depth : Nat := 0

structure Progress where
  rooted : Bool := false
  depth : Nat := 0
  skipped : Option Skipped := none
  current : Option TableRecord := none
  tables : List TableRecord := []

namespace Progress

def openTable (p : Progress) (element : String) : Except XmlError TableRecord :=
  match p.current with
  | some t => .ok t
  | none => .error (.outsideTable element)

def nest (p : Progress) (hasContent : Bool) : Progress :=
  if hasContent then { p with depth := p.depth + 1 } else p

def enter (p : Progress) (tag : Tag) (hasContent : Bool) : Except XmlError Progress := do
  match p.skipped with
  | some s =>
    .ok (if hasContent then { p with skipped := some { s with depth := s.depth + 1 } } else p)
  | none =>
    let element := elementName tag.name
    if !p.rooted then .ok ({ p with rooted := true }.nest hasContent)
    else if p.depth = 0 then .error (.afterRoot element)
    else
      match element with
      | "table" =>
        match p.current with
        | some t => .error (.nestedTable t.name)
        | none => do
          let t ← tableOf tag
          if hasContent then .ok ({ p with current := some t }.nest true)
          else .ok { p with tables := p.tables ++ [t] }
      | "column" => do
        let t ← p.openTable "column"
        let c ← columnOf t.name tag
        let t := { t with columns := t.columns ++ [c] }
        .ok ({ p with current := some t }.nest hasContent)
      | "relationship" => do
        let t ← p.openTable "relationship"
        let r ← relationshipOf t.name tag
        let t := { t with relationships := t.relationships ++ [r] }
        .ok ({ p with current := some t }.nest hasContent)
      | "tables" | "columns" | "relationships" => .ok (p.nest hasContent)
      | element =>
        .ok (if hasContent then { p with skipped := some { element, name := tag.name } } else p)

def leave (p : Progress) (name : String) : Progress :=
  match p.skipped with
  | some s =>
    { p with skipped := if s.depth = 0 then none else some { s with depth := s.depth - 1 } }
  | none =>
    let p := { p with depth := p.depth - 1 }
    match p.current with
    | some t =>
      if elementName name = "table" then { p with current := none, tables := p.tables ++ [t] }
      else p
    | none => p

def finish (p : Progress) : Except XmlError (List TableRecord) :=
  match p.skipped, p.current with
  | some s, _ => .error (.malformedInside s.element (.unclosed s.name))
  | none, current =>
    if !p.rooted then .error .noRoot
    else
      match current with
      | some t => .error (.openTable t.name)
      | none => if 0 < p.depth then .error .openDocument else .ok p.tables

-- Where a fault lies: in a skipped element it is reported as one inside of it.
def faultAt (p : Progress) (position : Nat) (fault : Fault) : XmlError :=
  match p.skipped with
  | some s => .malformedInside s.element fault
  | none => .malformed position fault

def read (p : Progress) : List Event → Except XmlError (List TableRecord)
  | [] => p.finish
  | .start tag :: rest =>
    match p.enter tag true with
    | .error e => .error e
    | .ok p => p.read rest
  | .empty tag :: rest =>
    match p.enter tag false with
    | .error e => .error e
    | .ok p => p.read rest
  | .close name :: rest => (p.leave name).read rest
  | .fault position fault :: _ => .error (p.faultAt position fault)

end Progress

def tablesOfXmlText (cs : List Char) : Except XmlError (List TableRecord) :=
  Progress.read {} (Xml.events cs)

end Relational.Description
