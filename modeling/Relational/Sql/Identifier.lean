import Relational.Numeral.Digits
import Relational.Text.Blank

namespace Relational.Sql

def isWordStart (c : Char) : Bool :=
  ('a' ≤ c && c ≤ 'z') || ('A' ≤ c && c ≤ 'Z') || c == '_'

def isWordChar (c : Char) : Bool :=
  isWordStart c || Numeral.isDigit c

def isWord : List Char → Bool
  | [] => false
  | c :: cs => isWordStart c && cs.all isWordChar

def double (quote : Char) : List Char → List Char
  | [] => []
  | c :: cs => if c = quote then quote :: quote :: double quote cs else c :: double quote cs

def enquote (quote : Char) (name : String) : String :=
  String.ofList (quote :: double quote name.toList ++ [quote])

def enquoteIfNeeded (reserved : List String) (name : String) : String :=
  let upper := String.ofList (name.toList.map Char.toUpper)
  if isWord name.toList && !reserved.contains upper then name
  else enquote '"' name

end Relational.Sql
