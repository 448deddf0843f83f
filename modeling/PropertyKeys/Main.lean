import PropertyKeys.CommandLine

/-!
# The program

Reads the files that the arguments name, runs the command and prints what it reports.
-/

namespace PropertyKeys.Main

/-- The content of a file, or a fault if it cannot be read. -/
def readFile (path : Text) : IO (Except FileFault Bytes) := do
  try
    let content ← IO.FS.readBinFile (String.ofList path)
    return .ok content.toList
  catch _ => return .error .missing

/-- Files that were read before, by their paths. -/
def reader (files : OrderedMap Text (Except FileFault Bytes)) : FileReader :=
  fun path => (files.get? path).getD (.error .missing)

end PropertyKeys.Main

open PropertyKeys in
/-- Runs the command with the arguments of the process. -/
def main (arguments : List String) : IO UInt32 := do
  let arguments := arguments.map String.toList
  let mut files : OrderedMap Text (Except FileFault Bytes) := []
  for path in CommandLine.paths arguments do
    let content ← Main.readFile path
    files := files.set path content
  let outcome := CommandLine.run (Main.reader files) arguments
  IO.print (String.ofList outcome.output)
  return outcome.code.toUInt32
