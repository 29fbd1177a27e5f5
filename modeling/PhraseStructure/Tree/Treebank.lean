import PhraseStructure.Text.Cut
import PhraseStructure.Tree.Reading

/-!
# Treebanks

A treebank is a sequence of lines with trees in brackets. A tree may span several lines, and a line
may hold several trees. Text outside of trees is left out with a warning. The lines are read by a
machine that goes from character to character (`Reader.step`) and remembers how many brackets are
open and the text of the tree so far.
-/

namespace PhraseStructure.Treebank

/-- What is found in a treebank. -/
inductive Event
  | tree (t : Tree String)
  | note (entry : Log.Entry)

/-- The state of reading a treebank. -/
structure Reader where
  /-- The brackets of the trees. -/
  brackets : Brackets
  /-- The number of brackets that are open. -/
  depth : Nat
  /-- The pieces of the tree on the lines before, the last one first. -/
  chunk : List (List Char)
  /-- The piece of the current line since the last tree, in reverse. -/
  piece : List Char
  /-- Whether some piece of the tree so far is no text, so that they cannot be put together. -/
  broken : Bool
  /-- What was found, the last first. -/
  found : List Event
  /-- What ended the reading. -/
  fault : Option Fault

/-- The entries for text outside of trees; blanks are not worth one. -/
def outsideEvents (cs : List Char) : List Event :=
  if Text.allBlank cs then []
  else
    [.note ⟨.warning,
      "ignoring text outside of tree: " ++ String.ofList (Text.quotedChars (Text.trim cs))⟩]

namespace Reader

/-- The state before the first line. -/
def start (b : Brackets) : Reader := ⟨b, 0, [], [], false, [], none⟩

/-- The text of the tree that is being read. -/
def chunkText (pieces : List (List Char)) : List Char := Text.join [' '] pieces.reverse

/-- The state after a tree is complete. -/
def complete (r : Reader) (text : List Char) : Reader :=
  let read := Tree.read (.text (String.ofList text)) (.text r.brackets.text)
  let found := (read.log.map Event.note).reverse ++ r.found
  match read.result with
  | .ok t => { r with depth := 0, chunk := [], piece := [], found := .tree t :: found }
  | .error fault => { r with found := found, fault := some fault }

/-- Reads the character of a line that has the given place in it. After a fault nothing is read. -/
def step (line : List Char) (r : Reader) (c : Char × Nat) : Reader :=
  match r.fault with
  | some _ => r
  | none =>
      if c.1 = r.brackets.opening then
        if r.depth = 0 then
          { r with
            depth := 1
            piece := [c.1]
            found := outsideEvents r.piece.reverse ++ r.found }
        else { r with depth := r.depth + 1, piece := c.1 :: r.piece }
      else if c.1 = r.brackets.closing then
        match r.depth with
        | 0 =>
            { r with
              fault := some (malformedTree r.brackets line (.unexpected r.brackets.closing c.2)) }
        | 1 =>
            if r.broken then { r with fault := some .wrongKind }
            else r.complete (chunkText ((c.1 :: r.piece).reverse :: r.chunk))
        | depth + 2 => { r with depth := depth + 1, piece := c.1 :: r.piece }
      else { r with piece := c.1 :: r.piece }

/-- What the end of a line does: an open tree goes on in the next line. -/
def endLine (r : Reader) : Reader :=
  match r.fault with
  | some _ => r
  | none =>
      if r.depth = 0 then
        { r with piece := [], found := outsideEvents r.piece.reverse ++ r.found }
      else { r with piece := [], chunk := r.piece.reverse :: r.chunk }

/-- Reads a line. -/
def line (r : Reader) (cs : List Char) : Reader := (cs.zipIdx.foldl (step cs) r).endLine

/-- Reads an element of a line that is no text. A tree can be neither begun nor ended in such a
line, as nothing can be cut out of it; `atOpening` and `atClosing` are what is wrong about a bracket
outside of trees. -/
def elementStep (atOpening : Fault) (atClosing : Nat → Fault) (r : Reader) (d : Datum × Nat) :
    Reader :=
  match r.fault with
  | some _ => r
  | none =>
      if d.1 == bracketDatum r.brackets.opening then
        if r.depth = 0 then { r with fault := some atOpening } else { r with depth := r.depth + 1 }
      else if d.1 == bracketDatum r.brackets.closing then
        match r.depth with
        | 0 => { r with fault := some (atClosing d.2) }
        | 1 => { r with fault := some .wrongKind }
        | depth + 2 => { r with depth := depth + 1 }
      else r

/-- What the end of a line does that is no text. Only a list may be a piece of an open tree. -/
def endElements (line : Datum) (r : Reader) : Reader :=
  match r.fault, line with
  | some _, _ => r
  | none, .list _ =>
      if r.depth = 0 then { r with fault := some .noSuchPart } else { r with broken := true }
  | none, _ => { r with fault := some .wrongKind }

/-- Reads what is given as a line. -/
def givenLine (r : Reader) (given : Datum) : Reader :=
  match r.fault, given with
  | some _, _ => r
  | none, .text s => r.line s.toList
  | none, .list elements =>
      let unexpected := fun index =>
        malformedSequence r.brackets given elements (.unexpected r.brackets.closing index)
      (elements.zipIdx.foldl (elementStep .noSuchPart unexpected) r).endElements given
  | none, .table entries =>
      let keys := entries.map Prod.fst
      (keys.zipIdx.foldl (elementStep .wrongKind fun _ => .noSuchPart) r).endElements given
  | none, _ => { r with fault := some .wrongKind }

/-- What the end of the treebank does: no tree may be open. -/
def finish (r : Reader) : Reader :=
  match r.fault with
  | some _ => r
  | none =>
      if r.depth = 0 then r
      else if r.broken then { r with fault := some .wrongKind }
      else { r with fault := some (malformedTree r.brackets (chunkText r.chunk) .unbalanced) }

/-- What was found, in order. -/
def events (r : Reader) : List Event := r.found.reverse

end Reader

/-- The trees among what was found. -/
def trees (events : List Event) : List (Tree String) :=
  events.filterMap fun
    | .tree t => some t
    | .note _ => none

/-- The log entries among what was found. -/
def entries (events : List Event) : List Log.Entry :=
  events.filterMap fun
    | .tree _ => none
    | .note entry => some entry

/-- What is found in some lines, and the fault that ends the reading early. -/
def readLines (b : Brackets) (lines : List (List Char)) : List Event × Option Fault :=
  let r := (lines.foldl Reader.line (Reader.start b)).finish
  (r.events, r.fault)

/-- What is found in a sequence of lines that is given, and the fault that ends the reading early.
The brackets are looked at first. -/
def read (lines brackets : Datum) : List Event × Option Fault :=
  match Brackets.readForTree brackets with
  | .error fault => ([], some fault)
  | .ok b =>
      match lines.elements? with
      | none => ([], some .wrongKind)
      | some elements =>
          let r := (elements.foldl Reader.givenLine (Reader.start b)).finish
          (r.events, r.fault)

end PhraseStructure.Treebank
