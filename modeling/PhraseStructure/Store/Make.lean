import PhraseStructure.Store.Edit
import PhraseStructure.Tree.Reading

/-!
# New trees in a store

A tree is made from its text, or from a label and children that are given, and it is copied: with
the children shared, or with new nodes throughout. A copy of a list, a table or a grammar shares
what these hold.
-/

namespace PhraseStructure

/-- The name of the kind of item. -/
def Item.kindName : Item → String
  | .plain d => d.kindName
  | .node _ => "grammartree.tree.Tree"
  | .row _ => "list"
  | .table _ => "dict"
  | .grammar _ => "grammartree.grammar.Grammar"

namespace Store

/-- Whether an item can be gone through for children. A text cannot. -/
def holdsChildren : Item → Bool
  | .plain (.text _) => false
  | .plain d => d.elements?.isSome
  | _ => true

/-- A new node made of a label and children that are given. -/
def make (s : Store) (label children : Item) : Except Fault (Store × Item) := do
  return s.addNode label (← s.sequence children)

/-- A new tree. Without children, the label is the text of the tree; without a label either, there
is only a blank node. A text is no sequence of children, unless the label is missing. -/
def build (s : Store) (label : Item) (children : Option Item) :
    Logged (Except Fault (Store × Item)) :=
  match label, children with
  | .plain .null, none => ⟨[], .ok s.addBlank⟩
  | .plain .null, some children => ⟨[], s.make label children⟩
  | _, some children => ⟨[], if holdsChildren children then s.make label children else
      .error .badChildren⟩
  | .plain (.text text), none =>
      let read := Tree.ofText text
      ⟨read.log, read.result.map s.plantText⟩
  | _, none => ⟨[], .error (.notTreeText label.kindName)⟩

/-- A new node with the label of a tree and all its leaves as children. -/
def flatten (s : Store) (own : Item) : Except Fault (Store × Item) := do
  let t ← s.viewNode own
  return s.addNode t.caption t.leaves

/-- A tree with new nodes throughout; no node is shared. -/
def copyDeep (s : Store) (own : Item) : Except Fault (Store × Item) := do
  return s.plant (← s.view own)

/-- A copy. For a node, every value that stands for something asks for new nodes throughout; nothing
else knows that choice. -/
def copy (s : Store) (own : Item) (deep : Option Datum) : Except Fault (Store × Item) :=
  match own, deep with
  | .node id, _ => do
      let cell ← s.cell id
      if (deep.getD .null).isVoid then return s.addNode cell.label cell.children
      else s.copyDeep own
  | .plain _, _ => .error .noSuchPart
  | _, some _ => .error .wrongKind
  | .row id, none => .ok (s.addRow (s.row id))
  | .table id, none => .ok (s.addTable (s.table id))
  | .grammar id, none => .ok (s.addGrammar (s.grammar id).copy)

/-- A copy of a tree with new nodes throughout; any other item as it is. -/
def convert (s : Store) (own : Item) : Except Fault (Store × Item) :=
  match own with
  | .node _ => s.copyDeep own
  | _ => .ok (s, own)

end Store

end PhraseStructure
