import PhraseStructure.Grammar.Rules
import PhraseStructure.Tree.Basic

/-!
# Productions of a tree

Every node of a tree is licensed by a production: its label is replaced by the labels and leaves
directly under it. Leaves become terminals by being enclosed in brackets.
-/

namespace PhraseStructure.Tree

/-- The text of a leaf as a terminal. The brackets are only taken apart here; whether they are
brackets is decided where symbols are made. -/
def terminalText (brackets : Datum) (word : String) : Except Fault String := do
  if let .table _ := brackets then throw .noSuchKey
  let some elements := brackets.elements? | throw .wrongKind
  match elements with
  | .text before :: .text after :: _ => return before ++ word ++ after
  | .text _ :: _ :: _ => throw .wrongKind
  | .text _ :: [] | [] => throw .outOfRange
  | _ :: _ => throw .wrongKind

/-- The symbol that a tree is under its parent. Only a text can be a terminal. -/
def symbolOf (brackets : Datum) : Tree Datum → Except Fault Datum
  | leaf (.text word) => do return .text (← terminalText brackets word)
  | leaf _ => .error .wrongKind
  | node label _ => .ok label

/-- The production that licenses a node. -/
def production (brackets : Datum) (t : Tree Datum) : Except Fault Production := do
  let daughters ← t.children.mapM (symbolOf brackets)
  Production.read t.caption (.list daughters) brackets

/-- The productions of all nodes, each before those of the nodes under it. -/
def productions (brackets : Datum) (t : Tree Datum) : Except Fault (List Production) :=
  (t.subtrees fun _ => true).mapM (production brackets)

/-- The grammar of the productions of a tree. -/
def toGrammar (brackets delimiter : Datum) (t : Tree Datum) : Logged (Except Fault Grammar) :=
  match t.productions brackets with
  | .error fault => ⟨[], .error fault⟩
  | .ok ps =>
      Grammar.make { delimiter := delimiter, brackets := brackets }
        (.given (.list (ps.map .production))) .null

end PhraseStructure.Tree
