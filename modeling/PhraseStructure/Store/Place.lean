import PhraseStructure.Store.View
import PhraseStructure.Text.Numeral

/-!
# Places in a store

The parts of a thing are named by an index, a slice or a key, and those of a node also by a
position: the indices that lead down to them. Where a part is looked up, an index in a position may
also be a text of digits (`get`). Where a part is to be changed, a position may hold positions in
place of indices (`placeOf`).
-/

namespace PhraseStructure

/-- The item under a key. -/
def Entries.lookUp (key : Datum) : Entries → Except Fault Item
  | [] => .error .noSuchKey
  | (k, a) :: rest => if k == key then .ok a else Entries.lookUp key rest

/-- The entries with an item under a key; a new key comes last. -/
def Entries.put (key : Datum) (a : Item) : Entries → Entries
  | [] => [(key, a)]
  | (k, b) :: rest => if k == key then (k, a) :: rest else (k, b) :: Entries.put key a rest

/-- The entries without that of a key. -/
def Entries.erase (key : Datum) : Entries → Except Fault Entries
  | [] => .error .noSuchKey
  | (k, a) :: rest => if k == key then .ok rest else do return (k, a) :: (← Entries.erase key rest)

/-- A key of a table; some values cannot be keys. -/
def readKey (given : Datum) : Except Fault Datum :=
  if given.isKey then .ok given else .error .wrongKind

namespace Store

/-- The index that an element of a position is when children are looked up: a number, or a text of
digits. -/
def lookupIndex (element : Datum) : Except Fault Int :=
  match element with
  | .text s =>
      match Text.readInteger? s.toList with
      | some i => .ok i
      | none => .error .unusable
  | .real x =>
      match x.truncate? with
      | some i => .ok i
      | none => .error (if x = .undefined then .unusable else .tooLarge)
  | d =>
      match d.int? with
      | some i => .ok i
      | none => .error .wrongKind

/-- The item that the rest of a position leads to in a part that is no node. Only a table can be
asked for it, as for a key. -/
def lookUpRest (s : Store) (part : Item) (rest : Datum) : Except Fault Item := do
  match part with
  | .table id => Entries.lookUp (← readKey rest) (s.table id)
  | _ => throw .wrongKind

/-- The item at a position below a node. `rest` makes a value of the elements that are left. -/
def descend (s : Store) (rest : List Datum → Datum) (id : Nat) : List Datum → Except Fault Item
  | [] => .ok (.node id)
  | [element] => do
      let i ← lookupIndex element
      elementAt (← s.children id) i
  | element :: more => do
      let i ← lookupIndex element
      match ← elementAt (← s.children id) i with
      | .node child => s.descend rest child more
      | part => s.lookUpRest part (rest more)

/-- Characters as a text again. -/
def joined (characters : List Datum) : Datum :=
  .text (String.join (characters.map Datum.plain))

/-- The item that an index or the elements of a position lead to below a node. -/
def lookUp (s : Store) (id : Nat) (given : Datum) : Except Fault Item :=
  match given with
  | .list elements => s.descend .list id elements
  | .tuple elements => s.descend .tuple id elements
  | .text word => s.descend joined id (word.toList.map fun c => .text (String.singleton c))
  | .table [] => .ok (.node id)
  | .table (_ :: _) => .error .noSuchKey
  | _ => do elementAt (← s.children id) (← readIndex given)

/-- What an address leads to. A slice of a list, of a node or of a grammar is a new list. -/
def get (s : Store) (own : Item) (address : Address) : Except Fault (Store × Item) :=
  match own, address with
  | .node id, .place given => do return (s, ← s.lookUp id given.asKey)
  | .node id, .slice r => do
      let children ← s.children id
      return s.addRow ((← r.read).take children)
  | .row id, .place given => do return (s, ← elementAt (s.row id) (← readIndex given))
  | .row id, .slice r => do return s.addRow ((← r.read).take (s.row id))
  | .table id, .place given => do
      return (s, ← Entries.lookUp (← readKey given.asKey) (s.table id))
  | .table _, .slice _ => .error .wrongKind
  | .grammar id, .place given => do
      return (s, .plain (.production (← (s.grammar id).getGiven given)))
  | .grammar id, .slice r => do
      return s.addRow ((← (s.grammar id).getSlice r).map fun p => .plain (.production p))
  | .plain d, _ => do return (s, .plain (← d.get address))

/-- A place that can be changed: a child of a node, or what is under a key of a table. -/
inductive Place
  | child (id : Nat) (index : Int)
  | entry (id : Nat) (key : Datum)

/-- The place that the rest of a position names in a part that is no node. -/
def placeOfRest (part : Item) (rest : Datum) : Except Fault Place := do
  match part with
  | .table id => return .entry id (← readKey rest)
  | _ => throw .wrongKind

/-- The place that the characters of a text name below a node. A single character names itself
again, and so on. -/
def placeOfText (s : Store) (root : Fault) (id : Nat) : List Char → Except Fault Place
  | [] => .error root
  | [_] => .error .endless
  | c :: cs => do
      match ← s.lookUp id (.text (String.singleton c)) with
      | .node child => s.placeOfText root child cs
      | part => placeOfRest part (.text (String.ofList cs))

mutual

/-- The place that a value names below a node; the node itself is none. -/
def placeOf (s : Store) (root : Fault) (id : Nat) : Datum → Except Fault Place
  | .int i => .ok (.child id i)
  | .bool b => .ok (.child id (if b then 1 else 0))
  | .text word => s.placeOfText root id word.toList
  | .list elements => s.placeOfAll root .list id elements
  | .tuple elements => s.placeOfAll root .tuple id elements
  | .table [] => .error root
  | .table (_ :: _) => .error .noSuchKey
  | _ => .error .wrongKind

/-- The place that the elements of a position name below a node. All but the last lead to a part;
the last one may be a position again. `rest` makes a value of the elements that are left. -/
def placeOfAll (s : Store) (root : Fault) (rest : List Datum → Datum) (id : Nat) :
    List Datum → Except Fault Place
  | [] => .error root
  | [element] => s.placeOf root id element
  | element :: more => do
      match ← s.lookUp id element with
      | .node child => s.placeOfAll root rest child more
      | part => placeOfRest part (rest more)

end

end Store

end PhraseStructure
