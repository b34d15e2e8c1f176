import Countersign.CommandLine

/-!
The program on its files and streams.
-/

namespace Countersign

def readAll (handle : IO.FS.Handle) : IO FileView := do
  try
    pure (.content (← handle.readBinToEnd).toList)
  catch _ => pure .unreadable

/-- A file that cannot be opened counts as missing, one that opens but cannot be read
as unreadable. -/
def viewFile (path : String) : IO FileView := do
  try
    readAll (← IO.FS.Handle.mk path .read)
  catch _ => pure .missing

def viewFiles (arguments : List String) : IO (String → FileView) := do
  match Usage.ofArguments arguments with
  | .run arguments => do
    let setup ← viewFile arguments.setup
    let input ← viewFile arguments.input
    pure fun path => if path == arguments.setup then setup else input
  | _ => pure fun _ => .missing

end Countersign

def main (arguments : List String) : IO UInt32 := do
  let files ← Countersign.viewFiles arguments
  let exit := Countersign.Program.run arguments files
  (← IO.getStdout).putStr exit.output
  for line in exit.errors do
    (← IO.getStderr).putStrLn line
  pure exit.code.toUInt32
