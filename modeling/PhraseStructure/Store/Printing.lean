import PhraseStructure.Grammar.Summary
import PhraseStructure.Store.View
import PhraseStructure.Tree.Printing

/-!
# Items in text

A list or a table is shown as what it holds between brackets, and a tree in it as a listing shows
it. In a drawing, what is no node is a leaf, which holds its text.
-/

namespace PhraseStructure

namespace Store

/-- An item in a listing, with what it holds up to a number of levels deep. -/
def shownWithin (s : Store) : Nat → Item → Except Fault String
  | _, .plain d => .ok d.shown
  | _, .grammar id => (s.grammar id).shown
  | 0, _ => .error .endless
  | levels + 1, .node id => do
      let cell ← s.cell id
      let children ← cell.children.mapM (s.shownWithin levels)
      let label ← s.shownWithin levels cell.label
      return "Tree(" ++ label ++ ", " ++ Text.bracketed children ++ ")"
  | levels + 1, .row id => do
      return Text.bracketed (← (s.row id).mapM (s.shownWithin levels))
  | levels + 1, .table id => do
      return Text.braced (← (s.table id).mapM fun (key, a) => do
        return (key.shown, ← s.shownWithin levels a))

/-- An item in a listing. -/
def shown (s : Store) (a : Item) : Except Fault String := s.shownWithin (s.levels + 1) a

/-- What is no node as running text. -/
def plainText (s : Store) (a : Item) : Except Fault String :=
  match a with
  | .plain d => .ok d.plain
  | .grammar id => (s.grammar id).text
  | _ => s.shown a

/-- The text that fills the place of a leaf. A tuple fills as many places as it has elements. -/
def filling (s : Store) (a : Item) : Except Fault String :=
  match a with
  | .plain (.tuple [d]) => .ok d.plain
  | .plain (.tuple _) => .error .wrongKind
  | _ => s.plainText a

/-- The tree over texts that an item is drawn as, found within a number of steps downwards. -/
def drawnWithin (s : Store) : Nat → Item → Except Fault (Tree String)
  | 0, .node _ => .error .endless
  | steps + 1, .node id => do
      let cell ← s.cell id
      let children ← cell.children.mapM (s.drawnWithin steps)
      match cell.label with
      | .node _ => return .node ((← s.drawnWithin steps cell.label).flat .round) children
      | label => return .node (← s.plainText label) children
  | _, a => do return .leaf (← s.filling a)

/-- The tree over texts that an item is drawn as. -/
def drawn (s : Store) (a : Item) : Except Fault (Tree String) := s.drawnWithin (s.levels + 1) a

/-- The tree that a node is drawn as; nothing else has the parts of a tree. -/
def drawnNode (s : Store) (a : Item) : Except Fault (Tree String) :=
  match a with
  | .node _ => s.drawn a
  | _ => .error .noSuchPart

/-- An item as running text: a tree in brackets on a single line, and a text as it is. -/
def plain (s : Store) (a : Item) : Except Fault String :=
  match a with
  | .node _ => do return (← s.drawn a).flat .round
  | _ => s.plainText a

end Store

end PhraseStructure
