import Relational.Json.Lexer

namespace Relational.Json

-- An array or object that is open: its parts so far, the nearest item first, the members sorted.
inductive Frame where
  | items (before : List Json)
  | member (before : List (String × Json)) (key : String)

-- What may come next. A bracket that has just been opened may be closed at once (`fresh`).
inductive Awaiting where
  | value (fresh : Bool)
  | key (before : List (String × Json)) (fresh : Bool)
  | colon (before : List (String × Json)) (key : String)
  | afterValue (value : Json)

structure Reading where
  stack : List Frame
  awaiting : Awaiting

def maxDepth : Nat := 127

namespace Reading

def start : Reading := ⟨[], .value false⟩

def step (r : Reading) (token : Token) : Option Reading :=
  match r.awaiting, token, r.stack with
  | .value _, .scalar v, stack => some ⟨stack, .afterValue v⟩
  | .value _, .openArray, stack =>
    if stack.length < maxDepth then some ⟨.items [] :: stack, .value true⟩ else none
  | .value _, .openObject, stack =>
    if stack.length < maxDepth then some ⟨stack, .key [] true⟩ else none
  | .value true, .closeArray, .items before :: stack =>
    some ⟨stack, .afterValue (.array before.reverse)⟩
  | .key before _, .scalar (.text key), stack => some ⟨stack, .colon before key⟩
  | .key before true, .closeObject, stack => some ⟨stack, .afterValue (.object before)⟩
  | .colon before key, .colon, stack => some ⟨.member before key :: stack, .value false⟩
  | .afterValue v, .comma, .items before :: stack =>
    some ⟨.items (v :: before) :: stack, .value false⟩
  | .afterValue v, .closeArray, .items before :: stack =>
    some ⟨stack, .afterValue (.array (v :: before).reverse)⟩
  | .afterValue v, .comma, .member before key :: stack =>
    some ⟨stack, .key (insertMember key v before) false⟩
  | .afterValue v, .closeObject, .member before key :: stack =>
    some ⟨stack, .afterValue (.object (insertMember key v before))⟩
  | _, _, _ => none

def result : Reading → Option Json
  | ⟨[], .afterValue v⟩ => some v
  | _ => none

end Reading

def parse (cs : List Char) : Option Json := do
  let words ← tokens cs
  let reading ← words.foldlM Reading.step .start
  reading.result

end Relational.Json
