import Relational.Numeral.Binary64

namespace Relational

open Numeral (Binary64)

-- A JSON value. Integers are those written without fraction and exponent that fit in 64 bits, all
-- other numbers are real. The members of an object stand in the order in which they are written
-- out; a value that was read has them sorted by key, each key once.
inductive Json where
  | null
  | bool (value : Bool)
  | integer (value : Int)
  | real (negative : Bool) (magnitude : Binary64)
  | text (value : String)
  | array (items : List Json)
  | object (members : List (String × Json))
  deriving Inhabited

namespace Json

def insertMember (key : String) (value : Json) : List (String × Json) → List (String × Json)
  | [] => [(key, value)]
  | (k, v) :: rest =>
    if key < k then (key, value) :: (k, v) :: rest
    else if key = k then (key, value) :: rest
    else (k, v) :: insertMember key value rest

def member? (key : String) : Json → Option Json
  | object members => members.lookup key
  | _ => none

def text? : Json → Option String
  | text s => some s
  | _ => none

end Json

end Relational
