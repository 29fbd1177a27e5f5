import PhraseStructure.Log
import PhraseStructure.Production.Reading
import PhraseStructure.Tree.Building

/-!
# Reading a tree

A text is a tree when it has as many closing as opening brackets and starts, after blanks, with an
opening bracket. The tree is the first balanced bracketing; what follows is left out with a warning.
A text without brackets is the label of a tree with nothing under it.
-/

namespace PhraseStructure

/-- Divides a text, in which `depth` brackets are open, behind the bracket that closes the last of
them; `before` is what precedes the text, in reverse. -/
def splitBalanced? (b : Brackets) (depth : Nat) (before : List Char) :
    List Char → Option (List Char × List Char)
  | [] => none
  | c :: cs =>
      if c = b.opening then splitBalanced? b (depth + 1) (c :: before) cs
      else if c = b.closing then
        if depth ≤ 1 then some ((c :: before).reverse, cs)
        else splitBalanced? b (depth - 1) (c :: before) cs
      else splitBalanced? b depth (c :: before) cs

/-- A fault of a text that should be a tree. -/
def malformedTree (b : Brackets) (cs : List Char) (defect : TreeDefect) : Fault :=
  .malformed ⟨.text (String.ofList cs), cs.count b.opening, cs.count b.closing, defect⟩

/-- A bracket among the elements of a sequence. -/
def bracketDatum (bracket : Char) : Datum := .text (String.singleton bracket)

/-- A fault of a sequence in the place of a text that should be a tree. Its elements are counted
like the characters of a text. -/
def malformedSequence (b : Brackets) (given : Datum) (elements : List Datum) (defect : TreeDefect) :
    Fault :=
  .malformed ⟨given, elements.count (bracketDatum b.opening),
    elements.count (bracketDatum b.closing), defect⟩

/-- Reads the brackets of trees. -/
def Brackets.readForTree (given : Datum) : Except Fault Brackets := Brackets.read .badKind given

/-- A fault without log entries. -/
def Logged.fail {α : Type} (fault : Fault) : Logged (Except Fault α) := ⟨[], .error fault⟩

namespace Tree

/-- The entries for text after a tree; blanks are not worth one. -/
def afterEntries (cs : List Char) : List Log.Entry :=
  if Text.allBlank cs then []
  else [⟨.warning, "ignoring text after tree: " ++ String.ofList (Text.quotedChars (Text.trim cs))⟩]

/-- Reads the tree in a text with different brackets. -/
def readChars (b : Brackets) (cs : List Char) : Logged (Except Fault (Tree String)) :=
  if cs.count b.opening ≠ cs.count b.closing then .fail (malformedTree b cs .unbalanced)
  else if cs.count b.opening = 0 then ⟨[], .ok (.node (String.ofList (Text.trim cs)) [])⟩
  else
    let isOther := fun c => c != b.opening && c != b.closing
    let before := cs.takeWhile isOther
    let start := before.length
    match cs.dropWhile isOther with
    | c :: rest =>
        if c = b.opening ∧ Text.allBlank before then
          match splitBalanced? b 1 [c] rest with
          | some (inside, after) =>
              match Builder.start.read b inside with
              | .ok ⟨_, some t⟩ => ⟨afterEntries after, .ok t⟩
              | .ok ⟨_, none⟩ => ⟨afterEntries after, .error .noSuchPart⟩
              | .error fault => ⟨afterEntries after, .error fault⟩
          | none => .fail (malformedTree b cs (.unclosed b.opening start))
        else .fail (malformedTree b cs (.expected b.opening start))
    | [] => .fail (malformedTree b cs (.unclosed b.opening start))

/-- Why a sequence in the place of a text is no tree. Its brackets are looked at like those of a
text, and nothing else can be done with it. -/
def sequenceFault (b : Brackets) (given : Datum) (elements : List Datum) : Fault :=
  let isOpening := fun d => d == bracketDatum b.opening
  let isClosing := fun d => d == bracketDatum b.closing
  if elements.countP isOpening ≠ elements.countP isClosing then
    malformedSequence b given elements .unbalanced
  else
    let start := (elements.takeWhile fun d => !isOpening d && !isClosing d).length
    if (elements[start]?).any isClosing then
      malformedSequence b given elements (.expected b.opening start)
    else .noSuchPart

/-- Reads the tree in a given text between given brackets. The brackets are looked at first. -/
def read (text brackets : Datum) : Logged (Except Fault (Tree String)) :=
  match Brackets.readForTree brackets with
  | .error fault => .fail fault
  | .ok b =>
      if b.opening = b.closing then .fail .sameBrackets
      else
        match text with
        | .text s => readChars b s.toList
        | .list elements => .fail (sequenceFault b text elements)
        | _ => .fail .noSuchPart

/-- A tree made from its text in the usual brackets. -/
def ofText (text : String) : Logged (Except Fault (Tree String)) := readChars .round text.toList

end Tree

end PhraseStructure
