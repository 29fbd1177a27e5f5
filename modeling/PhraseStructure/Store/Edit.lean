import PhraseStructure.Store.Same

/-!
# Edits in a store

An edit changes the children of a node, the items of a list, the entries of a table, or a grammar,
whoever holds it. Only an edit of a grammar, or one by the productions of a grammar, may change
something and fail (`Changed`); any other edit that fails changes nothing.
-/

namespace PhraseStructure

/-- What an operation on a store leaves and returns. -/
structure Changed (α : Type) where
  store : Store
  log : List Log.Entry
  result : Except Fault α

/-- An operation that leaves the store as it is when it fails. -/
def Changed.ofResult {α : Type} (s : Store) : Except Fault (Store × α) → Changed α
  | .ok (t, a) => ⟨t, [], .ok a⟩
  | .error fault => ⟨s, [], .error fault⟩

/-- An operation on a grammar of a store. -/
def Changed.ofGrammar {α : Type} (s : Store) (id : Nat) (e : Edited α) : Changed α :=
  ⟨s.setGrammar id e.grammar, e.log, e.result⟩

namespace Store

/-- Whether single items can be added to an item and removed from it. -/
def holdsItems : Item → Bool
  | .node _ | .row _ => true
  | _ => false

/-- Whether an item can be extended by a sequence. -/
def isExtensible : Item → Bool
  | .grammar _ => true
  | a => holdsItems a

/-- The items that can be changed: the children of a node, or the items of a list. -/
def parts (s : Store) : Item → Except Fault (List Item)
  | .node id => s.children id
  | .row id => .ok (s.row id)
  | _ => .error .noSuchPart

/-- Gives a node other children, or a list other items. -/
def setParts (s : Store) (own : Item) (items : List Item) : Store :=
  match own with
  | .node id => s.setChildren id items
  | .row id => s.setRow id items
  | _ => s

/-- Puts an item at a place. -/
def setPlace (s : Store) (place : Place) (item : Item) : Except Fault Store := do
  match place with
  | .child id i => return s.setChildren id (← replaceAt (← s.children id) i item)
  | .entry id key => return s.setTable id ((s.table id).put key item)

/-- Removes what is at a place. -/
def deletePlace (s : Store) (place : Place) : Except Fault Store := do
  match place with
  | .child id i => return s.setChildren id (← eraseAt (← s.children id) i)
  | .entry id key => return s.setTable id (← (s.table id).erase key)

/-- The fault of changing a part of what cannot be changed. Where there are parts, an index has to
fit a machine word before this is found out. -/
def unchangeable (own : Item) (given : Datum) : Fault :=
  match own, given with
  | .plain (.text _), .int i | .plain (.tuple _), .int i | .plain (.set _), .int i
  | .plain (.symbol _), .int i | .plain (.production _), .int i | .grammar _, .int i =>
      if fitsWord i then .wrongKind else .outOfRange
  | _, _ => .wrongKind

/-- Puts an item at an address. A slice is replaced by all items of a sequence. -/
def set (s : Store) (own : Item) (address : Address) (item : Item) : Except Fault Store :=
  match own, address with
  | .node id, .place given => do
      s.setPlace (← s.placeOf .assignRoot id given.asKey) item
  | .row id, .place given => do
      return s.setRow id (← replaceAt (s.row id) (← readIndex given) item)
  | .table id, .place given => do s.setPlace (.entry id (← readKey given.asKey)) item
  | _, .slice r => do
      if !holdsItems own then throw .wrongKind
      let items ← s.parts own
      let slice ← r.read
      return s.setParts own (← slice.assign items (← s.sequence item))
  | _, .place given => .error (unchangeable own given)

/-- Removes what is at an address. -/
def delete (s : Store) (own : Item) (address : Address) : Except Fault Store :=
  match own, address with
  | .node id, .place given => do
      s.deletePlace (← s.placeOf .deleteRoot id given.asKey)
  | .row id, .place given => do return s.setRow id (← eraseAt (s.row id) (← readIndex given))
  | .table id, .place given => do s.deletePlace (.entry id (← readKey given.asKey))
  | _, .slice r => do
      if !holdsItems own then throw .wrongKind
      let items ← s.parts own
      return s.setParts own ((← r.read).erase items)
  | _, .place given => .error (unchangeable own given)

/-- Puts an item behind the others. -/
def append (s : Store) (own item : Item) : Except Fault Store := do
  return s.setParts own ((← s.parts own) ++ [item])

/-- Puts an item in front of the one with an index. -/
def insert (s : Store) (own : Item) (index : Datum) (item : Item) : Except Fault Store := do
  let items ← s.parts own
  return s.setParts own (insertAt items (← readWordIndex index) item)

/-- Removes the first item that is the same as the given one. -/
def remove (s : Store) (own item : Item) : Except Fault Store := do
  let items ← s.parts own
  let k ← s.placeFrom item 0 items
  return s.setParts own (items.eraseIdx k)

/-- The rules that an item gives for a grammar. The grammar itself may be given. -/
def rules (s : Store) (own given : Item) : Except Fault Rules :=
  match own, given with
  | .grammar m, .grammar n => .ok (if m = n then .itself else .grammar (s.grammar n))
  | _, .grammar n => .ok (.grammar (s.grammar n))
  | _, .node id => do return .given (.list (← (← s.children id).mapM s.value))
  | _, _ => do return .given (← s.value given)

/-- The items of a sequence before the first that cannot be read, and the fault of that one. -/
def readable : List (Except Fault Item) → List Item × Except Fault Unit
  | [] => ([], .ok ())
  | .error fault :: _ => ([], .error fault)
  | .ok a :: rest =>
      let (items, result) := readable rest
      (a :: items, result)

/-- Puts the items of a sequence behind the others. A grammar takes them as rules. Those before one
that cannot be read stay added. -/
def extend (s : Store) (own more : Item) : Changed Unit :=
  match own with
  | .grammar id =>
      match s.rules own more with
      | .ok rules => .ofGrammar s id ((s.grammar id).extend rules)
      | .error fault => ⟨s, [], .error fault⟩
  | _ =>
      match s.parts own, s.readings more with
      | .ok items, .ok readings =>
          let (added, result) := readable readings
          ⟨s.setParts own (items ++ added), [], result⟩
      | .error fault, _ | _, .error fault => ⟨s, [], .error fault⟩

/-- Removes and returns the item with an index; without an index, the last one. Of a list, only the
last item can be taken, and of a table none. -/
def pop (s : Store) (own : Item) (index : Option Datum) : Changed Item :=
  match own with
  | .grammar id =>
      let e := (s.grammar id).popGiven (index.getD .null)
      .ofGrammar s id ⟨e.grammar, e.log, e.result.map fun p => .plain (.production p)⟩
  | _ => .ofResult s do
      match own, index with
      | .table _, _ | .row _, some _ => throw .wrongKind
      | _, _ =>
          let items ← s.parts own
          let i ← readWordIndex (index.getD (.int (-1)))
          return (s.setParts own (← eraseAt items i), ← elementAt items i)

/-- Two sequences of one kind as a new one, or the sum of two numbers. -/
def plus (s : Store) (a b : Item) : Except Fault (Store × Item) :=
  match a, b with
  | .row m, .row n => .ok (s.addRow (s.row m ++ s.row n))
  | .plain d, .plain e => do return (s, .plain (← d.plus e))
  | _, _ => .error .wrongKind

/-- What a set holds and another item does not, or the other way round; or the difference of two
numbers. -/
def minus (s : Store) (a b : Item) : Except Fault Item :=
  match a, b with
  | .plain (.set xs), _ => do return .plain (← (Datum.set xs).minus (← s.comparedWithSet b))
  | _, .plain (.set ys) => do return .plain (← (← s.comparedWithSet a).minus (.set ys))
  | .plain d, .plain e => do return .plain (← d.minus e)
  | _, _ => .error .wrongKind

end Store

end PhraseStructure
