import PhraseStructure.Datum.Set
import PhraseStructure.Store.Basic

/-!
# What items stand for

An item stands for a tree (`view`), in which whatever is no node is a leaf, and for a value
(`value`), unless it holds a tree or a grammar. It also stands for a sequence of items (`sequence`).
Things that hold themselves stand for nothing, and going through them would not end.
-/

namespace PhraseStructure

namespace Store

/-- The tree that an item stands for, found within a number of steps downwards. -/
def viewWithin (s : Store) : Nat → Item → Except Fault (Tree Item)
  | 0, .node _ => .error .endless
  | steps + 1, .node id => do
      let cell ← s.cell id
      return .node cell.label (← cell.children.mapM (s.viewWithin steps))
  | _, a => .ok (.leaf a)

/-- The tree that an item stands for. -/
def view (s : Store) (a : Item) : Except Fault (Tree Item) := s.viewWithin s.levels a

/-- The tree that a node stands for; nothing else has the parts of a tree. -/
def viewNode (s : Store) (a : Item) : Except Fault (Tree Item) :=
  match a with
  | .node _ => s.view a
  | _ => .error .noSuchPart

/-- The value that an item stands for, found within a number of steps. -/
def valueWithin (s : Store) : Nat → Item → Except Fault Datum
  | _, .plain d => .ok d
  | 0, _ => .error .endless
  | steps + 1, .row id => do return .list (← (s.row id).mapM (s.valueWithin steps))
  | steps + 1, .table id => do
      return .table (← (s.table id).mapM fun (key, a) => do
        return (key, ← s.valueWithin steps a))
  | _, _ => .error .wrongKind

/-- The value that an item stands for. A node or a grammar stands for none. -/
def value (s : Store) (a : Item) : Except Fault Datum := s.valueWithin (s.levels + 1) a

/-- The tree over values that a node stands for. Words and labels that stand for no value count as
nothing. -/
def viewValues (s : Store) (a : Item) : Except Fault (Tree Datum) := do
  return (← s.viewNode a).map fun word => ((s.value word).toOption).getD .null

/-- The items of a sequence one by one. The productions of a grammar may turn out not to be
readable. -/
def readings (s : Store) : Item → Except Fault (List (Except Fault Item))
  | .plain d => do return (← d.toElements).map fun element => .ok (.plain element)
  | .node id => do return (← s.children id).map .ok
  | .row id => .ok ((s.row id).map .ok)
  | .table id => .ok ((s.table id).map fun (key, _) => .ok (.plain key))
  | .grammar id => .ok ((s.grammar id).readings.map (·.map fun p => .plain (.production p)))

/-- The items of a sequence: the children of a node, the keys of a table, the productions of a
grammar, the characters of a text. -/
def sequence (s : Store) (a : Item) : Except Fault (List Item) := do (← s.readings a).mapM id

/-- The number of items of a sequence. -/
def length (s : Store) : Item → Except Fault Nat
  | .plain d => d.length
  | .grammar id => .ok (s.grammar id).size
  | a => do return (← s.sequence a).length

/-- The items under an item, if that is a node that is not blank. -/
def childrenUnder (s : Store) : Item → List Item
  | .node id => ((s.cells[id]?).join.map Cell.children).getD []
  | _ => []

/-- The items on an agenda and below in post-order. A node is left until what is below it was
visited; a node that was met before is not gone into again. `fresh` names the nodes not met yet. -/
def postorderFrom (s : Store) (fresh : List Nat) (agenda : List Item) : List Item :=
  match agenda with
  | [] => []
  | .node id :: rest =>
      if id ∈ fresh then
        postorderFrom s (fresh.erase id) (s.childrenUnder (.node id) ++ .node id :: rest)
      else .node id :: postorderFrom s fresh rest
  | a :: rest => a :: postorderFrom s fresh rest
termination_by (fresh.length, agenda.length)
decreasing_by
  · rename_i hfresh
    refine Prod.Lex.left _ _ ?_
    have hpos := List.length_pos_of_mem hfresh
    rw [List.length_erase_of_mem hfresh]
    omega
  · exact Prod.Lex.right _ (by simp)
  · exact Prod.Lex.right _ (by simp)

/-- The names of all nodes. Those of a planted tree come in pre-order. -/
def nodeNames (s : Store) : List Nat := (List.range s.cells.size).reverse

/-- The item and all items below, each after those under it. -/
def postorder (s : Store) (a : Item) : List Item := s.postorderFrom s.nodeNames [a]

/-- A list of what a traversal tells of the trees that it visits: the label of a node in a list of
its own, and the word of a leaf as it is. -/
def tell (s : Store) (visited : List (Tree Item)) : Store × Item :=
  let (s, told) := visited.foldl (fun (s, told) tree =>
    match tree with
    | .leaf word => (s, word :: told)
    | .node label _ =>
        let (s, a) := s.addRow [label]
        (s, a :: told)) (s, [])
  s.addRow told.reverse

/-- The item and all items below in post-order, without what is under them. -/
def postorderTrees (s : Store) (a : Item) : Except Fault (List (Tree Item)) :=
  (s.postorder a).mapM fun
    | .node id => do return .node (← s.cell id).label []
    | item => .ok (.leaf item)

end Store

end PhraseStructure
