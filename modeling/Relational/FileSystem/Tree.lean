import Relational.FileSystem.Basic
import Relational.FileSystem.Path

namespace Relational

inductive Entry where
  | file (content : ByteArray)
  | directory

def Entry.isDirectory : Entry → Bool
  | file _ => false
  | directory => true

abbrev Location := List String

structure FileTree where
  entries : List (Location × Entry) := []
  home : Location := []

namespace FileTree

variable (t : FileTree)

def entry? (l : Location) : Option Entry :=
  if l.isEmpty then some .directory else t.entries.lookup l

def content? (l : Location) : Option ByteArray :=
  match t.entry? l with
  | some (.file content) => some content
  | _ => none

def put (l : Location) (e : Entry) : FileTree :=
  { t with entries := (l, e) :: t.entries.filter (·.1 != l) }

def addFile (l : Location) (content : ByteArray) : FileTree :=
  let above := (List.range l.length).map l.take
  let t := above.foldl (fun t d => if (t.entry? d).isSome then t else t.put d .directory) t
  t.put l (.file content)

def maxNameLength : Nat := 255

def maxPathLength : Nat := 4095

def step (l : Location) (part : List Char) : Location :=
  if part = ['.'] then l else if part = ['.', '.'] then l.dropLast else l ++ [String.ofList part]

def follow (l : Location) : List (List Char) → Except FileFault Location
  | [] => .ok l
  | part :: rest =>
    match t.entry? l with
    | none => .error .notFound
    | some (.file _) => .error .notADirectory
    | some .directory =>
      if maxNameLength < (String.ofList part).utf8ByteSize then .error .nameTooLong
      else follow (step l part) rest

def locate (path : String) : Except FileFault Location :=
  let cs := path.toList
  if cs.contains '\u0000' then .error .nulInPath
  else if maxPathLength < path.utf8ByteSize then .error .nameTooLong
  else if cs.isEmpty then .error .notFound
  else
    let start := if cs.head? = some '/' then [] else t.home
    t.follow start ((Path.parts cs).filter (· ≠ []))

-- A path with a slash at its end can only be that of a directory.
def wantsDirectory (path : String) : Bool :=
  path.toList.getLast? == some '/'

def read (path : String) : Except FileFault ByteArray := do
  let l ← t.locate path
  match t.entry? l with
  | none => .error .notFound
  | some .directory => .error .isADirectory
  | some (.file content) => if wantsDirectory path then .error .notADirectory else .ok content

def write (path : String) (content : ByteArray) : Except FileFault FileTree := do
  let l ← t.locate path
  if wantsDirectory path ∨ (t.entry? l).any Entry.isDirectory then .error .isADirectory
  else .ok (t.put l (.file content))

def isDirectory (path : String) : Bool :=
  match t.locate path with
  | .ok l => (t.entry? l).any Entry.isDirectory
  | .error _ => false

def makeDirectory (path : String) : Except FileFault FileTree := do
  let l ← t.locate path
  if (t.entry? l).isSome then .error .alreadyExists else .ok (t.put l .directory)

def orExisting (path : String) (made : Except FileFault FileTree) : Except FileFault FileTree :=
  match made with
  | .ok t => .ok t
  | .error e => if t.isDirectory path then .ok t else .error e

def makeDirectoriesUpTo : Nat → FileTree → String → Except FileFault FileTree
  | 0, t, path => t.orExisting path (t.makeDirectory path)
  | fuel + 1, t, path =>
    match t.makeDirectory path, Path.parent? path with
    | .error .notFound, some parent =>
      if parent.isEmpty then .error .notFound
      else do
        let t ← makeDirectoriesUpTo fuel t parent
        t.orExisting path (t.makeDirectory path)
    | made, _ => t.orExisting path made

def makeDirectories (path : String) : Except FileFault FileTree :=
  makeDirectoriesUpTo path.length t path

def attempt (change : FileTree → Except FileFault FileTree) :
    StateM FileTree (Except FileFault Unit) := do
  match change (← get) with
  | .ok t =>
    set t
    return .ok ()
  | .error e => return .error e

instance : Files (StateM FileTree) where
  read path := return (← get).read path
  write path content := attempt (·.write path content)
  makeDirectories path := attempt (·.makeDirectories path)

end FileTree

end Relational
