import PhraseStructure.Datum.Basic
import PhraseStructure.Text.Utf8

/-!
# Faults

Everything that can go wrong is a `Fault`, named for its cause. `Fault.kind` sorts the causes by
what the caller did wrong, and `Fault.message?` words those that have a wording of their own.
-/

namespace PhraseStructure

/-- What is wrong about the brackets of a text that should be a tree. -/
inductive TreeDefect
  /-- There are not as many closing as opening brackets. -/
  | unbalanced
  /-- Something else stands where the opening bracket of the tree should be. -/
  | expected (bracket : Char) (index : Nat)
  /-- A closing bracket stands where no bracket is open. -/
  | unexpected (bracket : Char) (index : Nat)
  /-- An opening bracket is never closed. -/
  | unclosed (bracket : Char) (index : Nat)
  deriving DecidableEq, Repr

/-- A text that should be a tree, or a sequence in its place, with its numbers of brackets. -/
structure MalformedTree where
  text : Datum
  opening : Nat
  closing : Nat
  defect : TreeDefect

/-- What a caller did wrong. -/
inductive FaultKind
  /-- A value of the right kind is not acceptable. -/
  | badValue
  /-- A value is of the wrong kind. -/
  | badKind
  /-- A position is out of range. -/
  | badPosition
  /-- A number is larger than a machine word. -/
  | tooLarge
  /-- The operation is not available. -/
  | unavailable
  /-- The thing has no such part, or the part cannot be set. -/
  | noSuchPart
  /-- The text is not a tree. -/
  | malformedTree
  /-- There is no such file. -/
  | missingFile
  /-- A directory stands where a file is needed. -/
  | isDirectory
  /-- A file stands where a directory is needed. -/
  | notDirectory
  /-- A name cannot be looked up by the system. -/
  | badName
  /-- Bytes encode no text. -/
  | undecodable
  /-- Something is not as the encoding demands, though no single byte is wrong. -/
  | notEncoded
  /-- A name is not known. -/
  | unknownName
  /-- There is nothing under a key. -/
  | noSuchKey
  /-- The operation would go on for ever. -/
  | endless
  /-- A result would be too large to be kept. -/
  | outOfMemory
  deriving DecidableEq, Repr

/-- The causes of failure. -/
inductive Fault
  /-- A symbol must be a text. -/
  | notText (given : Datum)
  /-- Brackets must be two characters that are not blank. -/
  | badBrackets (kind : FaultKind) (given : Datum)
  /-- The brackets of a tree must differ. -/
  | sameBrackets
  | frozenSymbol
  | frozenProduction
  /-- A production has at least one head symbol. -/
  | noHead
  /-- A value cannot be understood as a rule. -/
  | notRule (given : Datum)
  /-- The text of a rule must be a text. -/
  | notRuleText (given : Datum)
  /-- A delimiter must hold more than blanks. -/
  | blankDelimiter
  /-- The delimiter must occur once in a rule. -/
  | delimiterCount (rule delimiter : String)
  /-- Nothing stands before the delimiter. -/
  | noHeadSymbols (rule : String)
  /-- Nothing stands before, between or after commas. -/
  | emptySymbol (rule : String)
  /-- The start symbol must be a non-terminal of the grammar. -/
  | badStart (symbol : String)
  | popEmpty
  | popRange
  | productionRange
  | noGrammarChomskyForm
  | noGreibachForm
  | malformed (tree : MalformedTree)
  /-- A tree is made from a text, or from a label and children, and not from another kind of
  thing. -/
  | notTreeText (kindName : String)
  /-- The children of a tree must be a sequence other than a text. -/
  | badChildren
  /-- The tree itself is not one of its own descendants. -/
  | assignRoot
  | deleteRoot
  | noFlattening
  | noPreterminals
  | noPartsOfSpeech
  | noTreeChomskyForm
  /-- The operation would go on for ever. -/
  | endless
  /-- There is no such output format. -/
  | unknownFormat (format : String)
  /-- A value is of a kind that the operation cannot use. -/
  | wrongKind
  /-- A position is outside a sequence. -/
  | outOfRange
  /-- A number is larger than a machine word. -/
  | tooLarge
  /-- A value is looked for and not there, or a step is zero, or the sizes of two sequences differ,
  or a separator is empty. -/
  | unusable
  /-- The thing has no such operation. -/
  | noSuchPart
  /-- There is nothing under a key. -/
  | noSuchKey
  /-- A result would be too large to be kept. -/
  | outOfMemory
  | missingFile (name : String)
  | isDirectory (name : String)
  | notDirectory (name : String)
  | longName (name : String)
  /-- A name holds the character that ends a name. -/
  | zeroInName
  | undecodable (fault : Text.DecodingFault)
  /-- There is no encoding with this name. -/
  | unknownEncoding (name : String)

namespace Fault

/-- What the caller did wrong. -/
def kind : Fault → FaultKind
  | notText _ | sameBrackets | notRule _ | notRuleText _ | notTreeText _ | badChildren
  | wrongKind => .badKind
  | badBrackets kind _ => kind
  | frozenSymbol | frozenProduction | noSuchPart => .noSuchPart
  | noHead | blankDelimiter | delimiterCount _ _ | noHeadSymbols _ | emptySymbol _ | badStart _
  | unknownFormat _ | unusable | zeroInName => .badValue
  | popEmpty | popRange | productionRange | assignRoot | deleteRoot | outOfRange => .badPosition
  | tooLarge => .tooLarge
  | noGrammarChomskyForm | noGreibachForm | noFlattening | noPreterminals | noPartsOfSpeech
  | noTreeChomskyForm => .unavailable
  | endless => .endless
  | noSuchKey => .noSuchKey
  | outOfMemory => .outOfMemory
  | malformed _ => .malformedTree
  | missingFile _ => .missingFile
  | isDirectory _ => .isDirectory
  | notDirectory _ => .notDirectory
  | longName _ => .badName
  | undecodable fault => if fault.reason.concernsBytes then .undecodable else .notEncoded
  | unknownEncoding _ => .unknownName

end Fault

/-- The wording of what is wrong about the brackets. -/
def MalformedTree.message (m : MalformedTree) : String :=
  "Malformed bracketed tree " ++ m.text.shown ++ ": " ++
    match m.defect with
    | .unbalanced =>
        toString m.opening ++ " opening brackets, " ++ toString m.closing ++ " closing brackets"
    | .expected bracket index =>
        "expected " ++ Text.quoted (String.singleton bracket) ++ " at index " ++ toString index
    | .unexpected bracket index =>
        "unexpected " ++ Text.quoted (String.singleton bracket) ++ " at index " ++ toString index
    | .unclosed bracket index =>
        "no closing bracket for " ++ Text.quoted (String.singleton bracket) ++ " at index " ++
          toString index

namespace Fault

/-- The wording of a rule that cannot be read. -/
def malformedRule (rule rest : String) : String :=
  "malformed rule " ++ Text.quoted rule ++ ": " ++ rest

/-- The wording of a fault; the faults of plain sequences have none. -/
def message? : Fault → Option String
  | notText given => some ("expected a string; got " ++ given.shown)
  | badBrackets _ given =>
      some ("brackets must be two non-whitespace characters; got " ++ given.shown)
  | sameBrackets => some "opening and closing bracket must differ"
  | frozenSymbol => some "Symbol objects are immutable"
  | frozenProduction => some "Production objects are immutable"
  | noHead => some "a production needs at least one head symbol"
  | notRule given =>
      some ("expected a Production, a rule string or a (head, daughters) pair; got " ++
        given.shown)
  | notRuleText given => some ("expected a rule string; got " ++ given.shown)
  | blankDelimiter => some "delimiter may not be empty"
  | delimiterCount rule delimiter =>
      some (malformedRule rule ("expected exactly one " ++ Text.quoted delimiter))
  | noHeadSymbols rule => some (malformedRule rule "no head symbols")
  | emptySymbol rule => some (malformedRule rule "empty symbol")
  | badStart symbol =>
      some ("start symbol " ++ Text.quoted symbol ++ " is not a non-terminal of this grammar")
  | popEmpty => some "pop from empty grammar"
  | popRange => some "pop index out of range"
  | productionRange => some "grammar index out of range"
  | noGrammarChomskyForm | noTreeChomskyForm =>
      some "conversion to Chomsky normal form is not implemented"
  | noGreibachForm => some "conversion to Greibach normal form is not implemented"
  | malformed tree => some tree.message
  | notTreeText kindName =>
      some ("Tree: Expected a label and child list or a single string; got: <class '" ++
        kindName ++ "'>")
  | badChildren => some "Tree() argument 2 should be a list, not a string"
  | assignRoot => some "The tree position () may not be assigned to."
  | deleteRoot => some "The tree position () may not be deleted."
  | noFlattening => some "in-place flattening is not implemented; use flatten()"
  | noPreterminals => some "pre-terminals are not implemented"
  | noPartsOfSpeech => some "part-of-speech tags are not implemented"
  | unknownFormat format => some ("unrecognized --output format: " ++ Text.quoted format)
  | wrongKind | outOfRange | tooLarge | unusable | noSuchPart | noSuchKey | outOfMemory
  | endless => none
  | missingFile name => some ("[Errno 2] No such file or directory: " ++ Text.quoted name)
  | isDirectory name => some ("[Errno 21] Is a directory: " ++ Text.quoted name)
  | notDirectory name => some ("[Errno 20] Not a directory: " ++ Text.quoted name)
  | longName name => some ("[Errno 36] File name too long: " ++ Text.quoted name)
  | zeroInName => some "embedded null byte"
  | undecodable fault => some fault.message
  | unknownEncoding name => some ("unknown encoding: " ++ name)

/-- Whether a fault is about the files that are read, and not about what is in them. -/
def concernsFiles : Fault → Bool
  | missingFile _ | isDirectory _ | notDirectory _ | longName _ | zeroInName | undecodable _
  | unknownEncoding _ => true
  | _ => false

end Fault

end PhraseStructure
