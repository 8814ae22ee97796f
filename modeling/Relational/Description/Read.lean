import Relational.Description.Format
import Relational.Description.Json
import Relational.Description.Xml

namespace Relational

inductive DescriptionError where
  | json (error : Description.JsonError)
  | xml (error : Description.XmlError)
  | record (error : RecordError)

namespace DescriptionError

def message : DescriptionError → String
  | json e => e.message
  | xml e => e.message
  | record e => e.message

def hasCause : DescriptionError → Bool
  | json .notJson | json (.badTable ..) => true
  | json .noTables => false
  | xml e => e.isMalformed
  | record (.naming _) => true
  | record _ => false

end DescriptionError

namespace Description

def byteOrderMark : Char := '\uFEFF'

def readJson (bytes : ByteArray) : Except JsonError (List TableRecord) :=
  match String.fromUTF8? bytes with
  | none => .error .notJson
  | some s =>
    match s.toList with
    | c :: cs => tablesOfJsonText (if c = byteOrderMark then cs else c :: cs)
    | [] => .error .notJson

def readXml (bytes : ByteArray) : Except XmlError (List TableRecord) :=
  match String.fromUTF8? bytes with
  | none => .error .notUtf8
  | some s => tablesOfXmlText (s.toList.dropWhile (· == byteOrderMark))

def records (format : Format) (bytes : ByteArray) : Except DescriptionError (List TableRecord) :=
  match format with
  | .json => (readJson bytes).mapError .json
  | .xml => (readXml bytes).mapError .xml

end Description

def Schema.read (format : Format) (bytes : ByteArray) : Except DescriptionError Schema := do
  let records ← Description.records format bytes
  (Schema.ofRecords records).mapError .record

end Relational
