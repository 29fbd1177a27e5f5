import PhraseStructure.Command.Classify
import PhraseStructure.Command.Convert

/-!
# The command line

The first argument after the name of the program is a command. Without one, the commands are listed.
-/

namespace PhraseStructure.Command

/-- The version of the program. -/
def version : String := "0.1.0"

/-- A command: its name, what it does, how to use it, and what it leaves. -/
structure Subcommand where
  name : String
  description : String
  usage : String
  options : OptionTable
  run : Inputs → List String → Output

/-- The commands. -/
def commands : List Subcommand := [
  ⟨"grammar", "Read rules and classify the grammar they form.", Classify.usage,
    Classify.options, Classify.run⟩,
  ⟨"tree", "Read bracketed trees; report their shape or convert them.", Convert.usage,
    Convert.options, Convert.run⟩]

/-- The part of a path behind its last slash. -/
def baseName (path : String) : String :=
  String.ofList ((path.toList.reverse.takeWhile (· ≠ '/')).reverse)

/-- A name with spaces behind it that fill a column. -/
def padded (width : Nat) (name : String) : String :=
  name ++ String.ofList (List.replicate (width - name.length) ' ')

/-- Lists the commands. -/
def listing (program : String) : Output :=
  let o := ({} : Output).report ("Usage: " ++ program ++ " <command> [arguments]\n")
  let o := o.report "Command is one of:"
  let o := commands.foldl
    (fun o c => o.report ("   " ++ padded 15 c.name ++ "  " ++ c.description)) o
  o.report ("for additional instructions issue: " ++ program ++ " <command> --help")

/-- Runs a command line, the first element of which is the name of the program. -/
def run (inputs : Inputs) : List String → Except Fault Output
  | [] => .error .outOfRange
  | program :: args =>
      .ok <|
        match args with
        | ["-v"] | ["--version"] => ({} : Output).print version
        | name :: rest =>
            match commands.find? (·.name = name), rest with
            | none, _ => listing (baseName program)
            | some c, ["-h"] | some c, ["--help"] => ({} : Output).print c.usage
            | some c, rest => c.run inputs rest
        | [] => listing (baseName program)

/-- The names of the inputs that a command line reads. -/
def sources : List String → List String
  | _ :: name :: args =>
      match commands.find? (·.name = name) with
      | none => []
      | some c =>
          match c.options.read args with
          | .ok a => if a.isSet "help" 'h' then [] else Inputs.names a.operands
          | .error _ => []
  | _ => []

end PhraseStructure.Command
