import Relational.CommandLine.Run

namespace Relational

def FileFault.ofError (e : IO.Error) : FileFault :=
  match e with
  | .noFileOrDirectory .. | .noSuchThing .. => .notFound
  | .alreadyExists .. => .alreadyExists
  | .inappropriateType .. => .notADirectory
  | e => .other (toString e)

def guarded {α : Type} (action : IO α) : IO (Except FileFault α) := do
  try return .ok (← action)
  catch e => return .error (.ofError e)

instance : Files IO where
  read path := guarded (IO.FS.readBinFile path)
  write path content := guarded (IO.FS.writeBinFile path content)
  makeDirectories path := guarded (IO.FS.createDirAll path)

-- Standard input is read only if the command line names it as the input.
def readStdin (words : List String) : IO ByteArray := do
  if words.contains "-" then (← IO.getStdin).readBinToEnd else return ByteArray.empty

end Relational

open Relational

def main (words : List String) : IO UInt32 := do
  let stdin ← readStdin words
  let outcome ← (CommandLine.run stdin words : IO CommandLine.Outcome)
  IO.print outcome.output
  IO.eprint outcome.reports
  return UInt32.ofNat outcome.code
