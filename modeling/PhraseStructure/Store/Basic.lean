import PhraseStructure.Grammar.Rules
import PhraseStructure.Tree.Basic

/-!
# Stores of things that can be changed

Trees that are edited in place share nodes: one node may stand under several others. Lists, tables
and grammars are edited in place and shared, too. A store keeps all of these, and an item names one
of them or is a plain value, which never changes. Whoever holds the name of a thing sees what
becomes of it.

A node may be blank: it then has neither a label nor children.
-/

namespace PhraseStructure

/-- What can be held: a plain value, or the name of a thing in a store. A name is the place among
the things of its kind. -/
inductive Item
  /-- A value that is neither a list nor a table. -/
  | plain (value : Datum)
  | node (id : Nat)
  | row (id : Nat)
  | table (id : Nat)
  | grammar (id : Nat)
  deriving Inhabited

/-- A text as an item. -/
def Item.text (s : String) : Item := .plain (.text s)

/-- The item for something that is not there. -/
def Item.nothing : Item := .plain .null

/-- What a node holds. -/
structure Cell where
  label : Item
  children : List Item
  deriving Inhabited

/-- Keys, each with the item that is kept under it. -/
abbrev Entries := List (Datum × Item)

/-- The things that items name: nodes, of which the blank ones hold nothing, the items of lists, the
entries of tables, and grammars. -/
structure Store where
  cells : Array (Option Cell) := #[]
  rows : Array (List Item) := #[]
  tables : Array Entries := #[]
  grammars : Array Grammar := #[]
  deriving Inhabited

namespace Store

variable (s : Store)

/-- The number of nodes, lists and tables. A way that leads from one to another that it holds, and
on, is not longer if it does not return to where it was. -/
def levels : Nat := s.cells.size + s.rows.size + s.tables.size

/-- What a node holds; a blank node has no such part. -/
def cell (id : Nat) : Except Fault Cell :=
  match s.cells[id]? with
  | some (some cell) => .ok cell
  | _ => .error .noSuchPart

/-- The children of a node. -/
def children (id : Nat) : Except Fault (List Item) := do return (← s.cell id).children

/-- The items of a list. -/
def row (id : Nat) : List Item := (s.rows[id]?).getD []

/-- The entries of a table. -/
def table (id : Nat) : Entries := (s.tables[id]?).getD []

/-- The grammar with a name. -/
def grammar (id : Nat) : Grammar := (s.grammars[id]?).getD (.empty {})

/-- Adds a node. -/
def addNode (label : Item) (children : List Item) : Store × Item :=
  ({ s with cells := s.cells.push (some ⟨label, children⟩) }, .node s.cells.size)

/-- Adds a blank node. -/
def addBlank : Store × Item := ({ s with cells := s.cells.push none }, .node s.cells.size)

/-- Adds a list. -/
def addRow (items : List Item) : Store × Item :=
  ({ s with rows := s.rows.push items }, .row s.rows.size)

/-- Adds a table. -/
def addTable (entries : Entries) : Store × Item :=
  ({ s with tables := s.tables.push entries }, .table s.tables.size)

/-- Adds a grammar. -/
def addGrammar (g : Grammar) : Store × Item :=
  ({ s with grammars := s.grammars.push g }, .grammar s.grammars.size)

/-- Gives a node other children. A blank node stays blank. -/
def setChildren (id : Nat) (children : List Item) : Store :=
  match s.cells[id]? with
  | some (some cell) =>
      { s with cells := s.cells.setIfInBounds id (some { cell with children := children }) }
  | _ => s

/-- Gives a list other items. -/
def setRow (id : Nat) (items : List Item) : Store :=
  { s with rows := s.rows.setIfInBounds id items }

/-- Gives a table other entries. -/
def setTable (id : Nat) (entries : Entries) : Store :=
  { s with tables := s.tables.setIfInBounds id entries }

/-- Puts another grammar in the place of one. -/
def setGrammar (id : Nat) (g : Grammar) : Store :=
  { s with grammars := s.grammars.setIfInBounds id g }

mutual

/-- Adds a value. Every list and every table in it becomes one of the store. -/
def give (s : Store) : Datum → Store × Item
  | .list values =>
      let (t, items) := giveAll s values
      t.addRow items
  | .table entries =>
      let (t, entries) := giveEntries s entries
      t.addTable entries
  | d => (s, .plain d)

/-- Adds a sequence of values. -/
def giveAll (s : Store) : List Datum → Store × List Item
  | [] => (s, [])
  | d :: ds =>
      let (t, a) := give s d
      let (u, items) := giveAll t ds
      (u, a :: items)

/-- Adds the values of a table. -/
def giveEntries (s : Store) : List (Datum × Datum) → Store × Entries
  | [] => (s, [])
  | (key, d) :: rest =>
      let (t, a) := give s d
      let (u, entries) := giveEntries t rest
      (u, (key, a) :: entries)

end

mutual

/-- Adds a tree with a new node for each of its nodes, those below first. -/
def plant (s : Store) : Tree Item → Store × Item
  | .leaf word => (s, word)
  | .node label children =>
      let (t, items) := plantAll s children
      t.addNode label items

/-- Adds trees, the last one first. -/
def plantAll (s : Store) : List (Tree Item) → Store × List Item
  | [] => (s, [])
  | t :: ts =>
      let (s, items) := plantAll s ts
      let (s, a) := plant s t
      (s, a :: items)

end

/-- Adds a tree over texts. -/
def plantText (t : Tree String) : Store × Item := s.plant (t.map .text)

end Store

end PhraseStructure
