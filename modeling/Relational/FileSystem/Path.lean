namespace Relational.Path

def parts (cs : List Char) : List (List Char) :=
  cs.splitOn '/'

def isIdle (part : List Char) : Bool :=
  part == [] || part == ['.']

def lastPart? (path : String) : Option (List Char) :=
  ((parts path.toList).filter (!isIdle ·)).getLast?

def fileName? (path : String) : Option (List Char) :=
  (lastPart? path).filter (· ≠ ['.', '.'])

def extension? (path : String) : Option String := do
  let name ← fileName? path
  let after := name.reverse.takeWhile (· != '.')
  match name.reverse.dropWhile (· != '.') with
  | _ :: _ :: _ => some (String.ofList after.reverse)
  | _ => none

def lead : List Char → List Char × List Char
  | '/' :: rest => (['/'], rest)
  | ['.'] => (['.'], [])
  | '.' :: '/' :: rest => (['.'], '/' :: rest)
  | cs => ([], cs)

def trimParts (ps : List (List Char)) : List (List Char) :=
  (ps.reverse.dropWhile isIdle).reverse

-- The path without its last component; a root and the empty path have none.
def parent? (path : String) : Option String :=
  let (start, body) := lead path.toList
  match trimParts (parts body) with
  | [] => if start = ['.'] then some "" else none
  | ps => some (String.ofList (start ++ ['/'].intercalate (trimParts ps.dropLast)))

end Relational.Path
