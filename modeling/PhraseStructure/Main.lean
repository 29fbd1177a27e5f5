import PhraseStructure.Command.Dispatch
import PhraseStructure.Command.Stored

/-!
# The program

Reads the files that the command line names, and the standard input if it is needed, and writes what
the command leaves.
-/

namespace PhraseStructure

/-- The name and the content of a file; nothing if it cannot be read. -/
def readNamed (name : String) : IO (Option (String × List UInt8)) := do
  match ← (IO.FS.readBinFile name).toBaseIO with
  | .error _ => return none
  | .ok bytes =>
      match Command.content? name bytes.toList with
      | some content => return some (name, content)
      | none => throw (IO.userError ("Not a gzipped file: " ++ name))

end PhraseStructure

open PhraseStructure

/-- Runs the command line and returns its exit status. -/
def main (args : List String) : IO UInt32 := do
  let line := (← IO.appPath).toString :: args
  let names := Command.sources line
  let files ← (names.filter (· ≠ "-")).filterMapM readNamed
  let stdin ← if names.contains "-" then (← IO.getStdin).readBinToEnd else pure .empty
  match Command.run ⟨files, stdin.toList⟩ line with
  | .error fault => throw (IO.userError (fault.message?.getD ""))
  | .ok output =>
      (← IO.getStdout).putStr output.stdout
      (← IO.getStderr).putStr output.stderr
      return output.status.toUInt32
