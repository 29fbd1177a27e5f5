import PhraseStructure.Command.Input
import PhraseStructure.Command.Options
import PhraseStructure.Command.Output
import PhraseStructure.Grammar.Rules
import PhraseStructure.Grammar.Summary

/-!
# The command for grammars

Reads rules, one on a line, from files, and prints the classes of the grammar they form.
-/

namespace PhraseStructure.Command

namespace Classify

/-- The options of the command. -/
def options : OptionTable where
  letters := ['h', 'q']
  flags := ["help", "info", "quiet"]
  settings := ["delimiter", "brackets", "start"]

/-- How to use the command. -/
def usage : String := Text.joinStrings "\n" [
  "Usage: grammartree grammar [<rules>...] [options]",
  "",
  "Read rules, one per line, and report the grammar classes they belong to.",
  "If no file is given, rules are read from standard input.",
  "",
  "Options:",
  "  --delimiter=x  the separator of head and daughters [default: -->]",
  "  --brackets=xy  the characters enclosing terminal symbols [default: []]",
  "  --start=x      the start symbol; must be a non-terminal of the grammar.",
  "  --info         print statistics on the rules as well.",
  "  -q, --quiet    only report warnings and errors."]

/-- The lines of the named files, with what was reported on the way, and the fault that ends the
reading. -/
def gather (quiet : Bool) (inputs : Inputs) (o : Output) (lines : List (List Char)) :
    List String → Output × Except Fault (List (List Char))
  | [] => (o, .ok lines)
  | name :: names =>
      match inputs.open? name with
      | .error fault => (o, .error fault)
      | .ok (bytes, inputs) =>
          match decodeText .utf8 bytes with
          | .error fault => (o, .error fault)
          | .ok cs =>
              gather quiet inputs (o.inform quiet ("read " ++ name)) (lines ++ Text.lines cs) names

/-- The grammar of lines of rules under the options of the command line. -/
def grammarOf (a : Arguments) (lines : List (List Char)) : Except Fault Grammar :=
  let conventions : Conventions :=
    { delimiter := .text ((a.value? "delimiter").getD Production.arrow)
      brackets := .text ((a.value? "brackets").getD Brackets.square.text) }
  let start : Datum :=
    match a.value? "start" with
    | some s => .text s
    | none => .null
  (Grammar.make conventions (.given (.text (String.ofList (Text.join ['\n'] lines)))) start).result

/-- Runs the command with its arguments. -/
def run (inputs : Inputs) (args : List String) : Output :=
  match options.read args with
  | .error fault =>
      { (({} : Output).report ("error: " ++ fault.message)).print usage with status := 2 }
  | .ok a =>
      if a.isSet "help" 'h' then ({} : Output).print usage
      else
        let quiet := a.isSet "quiet" 'q'
        let (o, lines) := gather quiet inputs {} [] (Inputs.names a.operands)
        match lines >>= grammarOf a with
        | .error fault => o.fail fault
        | .ok g =>
            let o := o.inform quiet
              (toString g.size ++ " rules, " ++ toString g.buckets.length ++ " heads")
            let report : Except Fault String :=
              if a.hasFlag "info" then g.summary
              else do return Text.joinStrings "\n" ((← g.classify).map Grammar.classLine)
            match report with
            | .error fault => o.fail fault
            | .ok text => o.print text

end Classify

end PhraseStructure.Command
