import PhraseStructure.Command.Path
import PhraseStructure.Text.Encoding

/-!
# Input of a command

A command reads files by their names, and a dash names the standard input, which can be read once.
Carriage returns are read as line feeds.
-/

namespace PhraseStructure.Command

/-- The bytes that can be read. -/
structure Inputs where
  files : Files
  stdin : List UInt8

namespace Inputs

/-- The bytes under a name, and what can be read after that. -/
def open? (inputs : Inputs) (name : String) : Except Fault (List UInt8 × Inputs) :=
  if name = "-" then .ok (inputs.stdin, { inputs with stdin := [] })
  else do return (← inputs.files.read name, inputs)

/-- The names to read when some are given: without any, the standard input. -/
def names (operands : List String) : List String := if operands.isEmpty then ["-"] else operands

end Inputs

/-- The text of a file that is read as a whole. -/
def decodeText (encoding : Text.Encoding) (bytes : List UInt8) : Except Fault (List Char) :=
  (encoding.decodeFile bytes).mapError .undecodable

/-- A text that is cut short, as far as its lines are certain: a carriage return at its end may be
the first half of a line break. -/
def withoutOpenBreak (cs : List Char) : List Char :=
  if cs.getLast? = some '\r' then cs.dropLast else cs

/-- The lines of a file that is read line by line, and the fault that ends it. Of a text that is cut
short only the lines that are complete are read. -/
def decodeLines (bytes : List UInt8) : List (List Char) × Option Fault :=
  match Text.decodeInBlocks bytes with
  | (cs, none) => (Text.linesWithFeed (Text.normalizeNewlines cs), none)
  | (cs, some fault) =>
      let lines := Text.linesWithFeed (Text.normalizeNewlines (withoutOpenBreak cs))
      (lines.filter fun line => line.getLast? = some '\n', some (.undecodable fault))

end PhraseStructure.Command
