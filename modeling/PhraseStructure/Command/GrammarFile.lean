import PhraseStructure.Command.Input
import PhraseStructure.Command.Stored
import PhraseStructure.Grammar.Rules

/-!
# Grammars in files

A file of rules is read as a whole, in an encoding that is chosen by its name. Without an encoding
the file holds numbers, which are no rules.
-/

namespace PhraseStructure.Command

/-- Whether a value may be given as an encoding; which encoding it names is not looked at yet. -/
def checkEncoding : Datum → Except Fault Unit
  | .null => .ok ()
  | .text name => if name.toList.contains '\x00' then .error .zeroInName else .ok ()
  | _ => .error .wrongKind

/-- The bytes of the file with a given name. For a compressed file, what is given as its encoding is
checked after it is opened, and otherwise before. -/
def openGiven (inputs : Inputs) (filename encoding : Datum) : Except Fault (List UInt8) := do
  let .text name := filename | throw .noSuchPart
  if isCompressed name then
    let (bytes, _) ← inputs.open? name
    checkEncoding encoding
    return bytes
  else
    checkEncoding encoding
    let (bytes, _) ← inputs.open? name
    return bytes

/-- The rules that bytes hold in a given encoding. -/
def decodeRules (encoding : Datum) (bytes : List UInt8) : Except Fault Rules :=
  match encoding with
  | .null => .ok (.given (.list (bytes.map fun b => .int b.toNat)))
  | .text name => do
      let some encoding := Text.Encoding.ofName? name | throw (.unknownEncoding name)
      return .given (.text (String.ofList (← decodeText encoding bytes)))
  | _ => .error .wrongKind

/-- The grammar in a file. Rules are separated by the conventions' line separator. -/
def readGrammar (inputs : Inputs) (filename encoding : Datum) (conventions : Conventions)
    (start : Datum) : Logged (Except Fault Grammar) :=
  match openGiven inputs filename encoding >>= decodeRules encoding with
  | .error fault => ⟨[], .error fault⟩
  | .ok rules => Grammar.make conventions rules start

end PhraseStructure.Command
