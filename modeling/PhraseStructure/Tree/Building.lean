import PhraseStructure.Brackets
import PhraseStructure.Fault
import PhraseStructure.Tree.Basic

/-!
# Building a tree from bracketed text

A bracketed text is read from left to right. An opening bracket begins a node, whose label stands
directly after it; a closing bracket finishes the node that was begun last; any other run of
characters that are neither blank nor brackets is a word. The nodes that are still open stand on a
stack (`Builder`).
-/

namespace PhraseStructure

/-- Whether a character can stand in a label or a word. -/
def Brackets.isPlain (b : Brackets) (c : Char) : Bool :=
  !Text.isBlank c && c != b.opening && c != b.closing

/-- A node that is still open, with the trees read so far, the last one first. -/
structure OpenNode where
  label : String
  children : List (Tree String)

namespace OpenNode

/-- The node with one more tree under it. -/
def push (n : OpenNode) (t : Tree String) : OpenNode := { n with children := t :: n.children }

/-- The finished node. -/
def close (n : OpenNode) : Tree String := .node n.label n.children.reverse

end OpenNode

/-- The state in which a text is read. -/
structure Builder where
  /-- The nodes that are open, the innermost first. -/
  stack : List OpenNode
  /-- The tree whose outermost bracket was closed last. -/
  built : Option (Tree String)

namespace Builder

/-- The state before a text. -/
def start : Builder := ⟨[], none⟩

/-- Begins a node with a label. -/
def begin (s : Builder) (label : List Char) : Builder :=
  { s with stack := ⟨String.ofList label, []⟩ :: s.stack }

/-- Finishes the innermost node. It goes under the next one; without a next one it is the tree that
was built. -/
def finish (s : Builder) : Except Fault Builder :=
  match s.stack with
  | [] => .error .outOfRange
  | [n] => .ok ⟨[], some n.close⟩
  | n :: m :: rest => .ok { s with stack := m.push n.close :: rest }

/-- Puts a word under the innermost node. -/
def addWord (s : Builder) (word : List Char) : Except Fault Builder :=
  match s.stack with
  | [] => .error .outOfRange
  | n :: rest => .ok { s with stack := n.push (.leaf (String.ofList word)) :: rest }

/-- Reads a text. -/
def read (b : Brackets) (s : Builder) : List Char → Except Fault Builder
  | [] => .ok s
  | c :: cs =>
      have _hle : (cs.dropWhile b.isPlain).length ≤ cs.length :=
        (List.dropWhile_suffix b.isPlain).length_le
      if Text.isBlank c then read b s cs
      else if c = b.opening then
        read b (s.begin (cs.takeWhile b.isPlain)) (cs.dropWhile b.isPlain)
      else if c = b.closing then
        match s.finish with
        | .error fault => .error fault
        | .ok s => read b s cs
      else
        match s.addWord (c :: cs.takeWhile b.isPlain) with
        | .error fault => .error fault
        | .ok s => read b s (cs.dropWhile b.isPlain)
termination_by cs => cs.length
decreasing_by
  all_goals simp only [List.length_cons]
  all_goals omega

/-- The empty text changes nothing. -/
@[simp] theorem read_nil (b : Brackets) (s : Builder) : s.read b [] = .ok s := by rw [read]

end Builder

end PhraseStructure
