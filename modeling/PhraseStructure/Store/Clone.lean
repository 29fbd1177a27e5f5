import PhraseStructure.Store.Basic

/-!
# Clones

A clone is a copy of an item and of everything that it leads to. What is shared below the item is
shared below its clone, and nothing is shared between the two.
-/

namespace PhraseStructure

namespace Store

/-- The name of a thing in a store. -/
inductive Name
  | node (id : Nat)
  | row (id : Nat)
  | table (id : Nat)
  | grammar (id : Nat)
  deriving DecidableEq

/-- The name that an item is. -/
def name? : Item → Option Name
  | .plain _ => none
  | .node id => some (.node id)
  | .row id => some (.row id)
  | .table id => some (.table id)
  | .grammar id => some (.grammar id)

/-- The names that a thing holds. -/
def namesUnder (s : Store) : Name → List Name
  | .node id =>
      match (s.cells[id]?).join with
      | some cell => (cell.label :: cell.children).filterMap name?
      | none => []
  | .row id => (s.row id).filterMap name?
  | .table id => (s.table id).filterMap fun (_, a) => name? a
  | .grammar _ => []

/-- The names that an agenda leads to, each once. `fresh` holds the names not met yet. -/
def reachFrom (s : Store) (fresh agenda : List Name) : List Name :=
  match agenda with
  | [] => []
  | n :: rest =>
      if n ∈ fresh then n :: reachFrom s (fresh.erase n) (s.namesUnder n ++ rest)
      else reachFrom s fresh rest
termination_by (fresh.length, agenda.length)
decreasing_by
  · rename_i hfresh
    refine Prod.Lex.left _ _ ?_
    have hpos := List.length_pos_of_mem hfresh
    rw [List.length_erase_of_mem hfresh]
    omega
  · exact Prod.Lex.right _ (by simp)

/-- The names of all things. -/
def names (s : Store) : List Name :=
  (List.range s.cells.size).reverse.map .node ++ (List.range s.rows.size).reverse.map .row ++
    (List.range s.tables.size).reverse.map .table ++
    (List.range s.grammars.size).reverse.map .grammar

/-- The names that an item leads to, each once. -/
def reachable (s : Store) (a : Item) : List Name := s.reachFrom s.names (name? a).toList

/-- The names of one kind among names. -/
def idsOf (kind : Nat → Name) (names : List Name) : List Nat :=
  names.filterMap fun n =>
    let id := match n with
      | .node id | .row id | .table id | .grammar id => id
    if kind id = n then some id else none

/-- The item in which copied things have the names of their copies, which were added in order. -/
def renamed (s : Store) (copied : List Name) : Item → Item
  | .plain d => .plain d
  | .node id => .node (s.cells.size + (idsOf .node copied).idxOf id)
  | .row id => .row (s.rows.size + (idsOf .row copied).idxOf id)
  | .table id => .table (s.tables.size + (idsOf .table copied).idxOf id)
  | .grammar id => .grammar (s.grammars.size + (idsOf .grammar copied).idxOf id)

/-- A copy of everything that an item leads to. -/
def clone (s : Store) (own : Item) : Store × Item :=
  let copied := s.reachable own
  let rename := s.renamed copied
  let cells := (idsOf .node copied).map fun id =>
    (s.cells[id]?).join.map fun cell => ⟨rename cell.label, cell.children.map rename⟩
  let rows := (idsOf .row copied).map fun id => (s.row id).map rename
  let tables := (idsOf .table copied).map fun id =>
    (s.table id).map fun (key, a) => (key, rename a)
  let grammars := (idsOf .grammar copied).map s.grammar
  (⟨s.cells ++ cells.toArray, s.rows ++ rows.toArray, s.tables ++ tables.toArray,
    s.grammars ++ grammars.toArray⟩, rename own)

end Store

end PhraseStructure
