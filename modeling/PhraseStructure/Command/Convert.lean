import PhraseStructure.Command.Input
import PhraseStructure.Command.Options
import PhraseStructure.Command.Output
import PhraseStructure.Tree.Derivation
import PhraseStructure.Tree.Latex
import PhraseStructure.Tree.Treebank

/-!
# The command for trees

Reads trees from files, one after the other, and prints each in a chosen format. A tree may begin in
one file and end in the next.
-/

namespace PhraseStructure.Command.Convert

/-- The options of the command. -/
def options : OptionTable where
  letters := ['h', 'q']
  flags := ["help", "quiet"]
  settings := ["brackets", "output"]

/-- How to use the command. -/
def usage : String := Text.joinStrings "\n" [
  "Usage: grammartree tree [<treebank>...] [options]",
  "",
  "Read trees in bracketed notation and report their height and leaves, or",
  "convert them to another format. Trees may span several lines. If no file",
  "is given, trees are read from standard input.",
  "",
  "Options:",
  "  --brackets=xy  the brackets delimiting constituents [default: ()]",
  "  --output=x     one of:",
  "      summary    tree, height and leaves [default]",
  "      bracket    the tree in bracketed notation on a single line",
  "      pprint     the tree indented over multiple lines",
  "      flat       the tree with its leaves as children of the root",
  "      qtree      LaTeX code for the qtree package",
  "      tikz       LaTeX code for tikz-qtree",
  "      grammar    the productions licensing the tree",
  "  -q, --quiet    only report warnings and errors."]

/-- The output formats. -/
inductive Format
  | summary
  | bracket
  | pretty
  | flat
  | qtree
  | tikz
  | grammar
  deriving DecidableEq, Repr

/-- The format with a name. -/
def Format.ofName (name : String) : Except Fault Format :=
  match name with
  | "summary" => .ok summary
  | "bracket" => .ok bracket
  | "pprint" => .ok pretty
  | "flat" => .ok flat
  | "qtree" => .ok qtree
  | "tikz" => .ok tikz
  | "grammar" => .ok grammar
  | _ => .error (.unknownFormat name)

/-- The margin at which trees are broken over lines. -/
def margin : Int := 70

/-- The tree with number `n` in a format, between the given brackets where the format has a
choice. -/
def Format.render (e : Enclosure) (n : Nat) (t : Tree String) : Format → Except Fault String
  | summary =>
      .ok (toString n ++ ". " ++ t.flat .round ++ "\nheight: " ++ toString t.height ++
        "\nleaves: " ++ Text.joinStrings " " t.leaves)
  | bracket => .ok (t.flat e)
  | pretty => .ok (t.pretty e margin 0)
  | flat => .ok (t.flatten.flat e)
  | qtree => .ok t.qtree
  | tikz => .ok (t.tikzTree "blue" "red")
  | grammar => do
      let ps ← (t.map Datum.text).productions (.text Brackets.square.text)
      return Text.joinStrings "\n" (ps.map Production.text)

/-- The choices on the command line. -/
structure Choices where
  quiet : Bool
  enclosure : Enclosure
  format : String

/-- How far the command is: its output, the number of trees, and the fault that ended it. -/
structure Progress where
  output : Output
  trees : Nat
  fault : Option Fault

namespace Progress

/-- Ends the command with a fault. -/
def stop (p : Progress) (fault : Fault) : Progress := { p with fault := some fault }

/-- Reports an entry, or prints a tree. After a fault nothing is done. -/
def handle (c : Choices) (p : Progress) (event : Treebank.Event) : Progress :=
  match p.fault, event with
  | some _, _ => p
  | none, .note entry => { p with output := p.output.log c.quiet entry }
  | none, .tree t =>
      let n := p.trees + 1
      match Format.ofName c.format >>= Format.render c.enclosure n t with
      | .ok text => { p with output := p.output.print text, trees := n }
      | .error fault => { p with trees := n, fault := some fault }

/-- Handles what a reader has found, which may end with a fault of its own. -/
def handleAll (c : Choices) (p : Progress) (r : Treebank.Reader) : Progress :=
  let p := r.events.foldl (handle c) p
  match p.fault, r.fault with
  | none, some fault => p.stop fault
  | _, _ => p

end Progress

/-- A reader whose findings were handled. -/
def emptied (r : Treebank.Reader) : Treebank.Reader := { r with found := [] }

/-- Reads the named files one after the other. -/
def readFiles (c : Choices) (inputs : Inputs) (p : Progress) (r : Treebank.Reader) :
    List String → Progress
  | [] => p.handleAll c r.finish
  | name :: names =>
      match inputs.open? name with
      | .error fault => p.stop fault
      | .ok (bytes, inputs) =>
          let (lines, fault) := decodeLines bytes
          let r := lines.foldl Treebank.Reader.line (emptied r)
          let p := p.handleAll c r
          match p.fault, fault with
          | some _, _ => p
          | none, some fault => p.stop fault
          | none, none =>
              let p := { p with output := p.output.inform c.quiet ("read " ++ name) }
              readFiles c inputs p (emptied r) names

/-- Runs the command with its arguments. -/
def run (inputs : Inputs) (args : List String) : Output :=
  match options.read args with
  | .error fault =>
      { (({} : Output).report ("error: " ++ fault.message)).print usage with status := 2 }
  | .ok a =>
      if a.isSet "help" 'h' then ({} : Output).print usage
      else
        let quiet := a.isSet "quiet" 'q'
        match Brackets.readForTree (.text ((a.value? "brackets").getD Brackets.round.text)) with
        | .error fault => ({} : Output).fail fault
        | .ok b =>
            let choices := ⟨quiet, b.enclosure, (a.value? "output").getD "summary"⟩
            let p := readFiles choices inputs ⟨{}, 0, none⟩ (Treebank.Reader.start b)
              (Inputs.names a.operands)
            match p.fault with
            | some fault => p.output.fail fault
            | none => p.output.inform quiet (toString p.trees ++ " trees")

end PhraseStructure.Command.Convert
