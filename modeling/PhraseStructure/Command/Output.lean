import PhraseStructure.Fault
import PhraseStructure.Log

/-!
# Output of a command

What a command prints and reports, collected in order, and its exit status.
-/

namespace PhraseStructure.Command

/-- What a command leaves. -/
structure Output where
  stdout : String := ""
  stderr : String := ""
  status : Nat := 0
  deriving DecidableEq, Repr

namespace Output

/-- Prints a line. -/
def print (o : Output) (line : String) : Output := { o with stdout := o.stdout ++ line ++ "\n" }

/-- Reports a line. -/
def report (o : Output) (line : String) : Output := { o with stderr := o.stderr ++ line ++ "\n" }

/-- Reports an entry of a log: warnings always, and other entries unless the command is quiet. -/
def log (o : Output) (quiet : Bool) (entry : Log.Entry) : Output :=
  match entry.level with
  | .warning => o.report entry.text
  | .info => if quiet then o else o.report entry.text
  | .debug => o

/-- Reports an entry for information. -/
def inform (o : Output) (quiet : Bool) (text : String) : Output := o.log quiet ⟨.info, text⟩

/-- Reports a fault and ends the command. -/
def fail (o : Output) (fault : Fault) : Output :=
  { o.report ("error: " ++ fault.message?.getD "") with status := 1 }

end Output

end PhraseStructure.Command
