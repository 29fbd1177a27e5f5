import PhraseStructure.Store.Place

/-!
# Sameness of items

Two items are identical when they name one thing, or are equal plain values. They are the same when
what they stand for is: nodes with the same label and children, lists with the same items, tables
with the same entries, grammars with the same productions. What is identical is not looked into.
-/

namespace PhraseStructure

namespace Store

/-- Whether two items are one and the same. -/
def identical : Item → Item → Bool
  | .plain d, .plain e => d.kindName == e.kindName && d == e
  | .node m, .node n | .row m, .row n | .table m, .table n | .grammar m, .grammar n => m == n
  | _, _ => false

/-- Whether a condition holds of all pairs of two sequences, as long as it holds. -/
def allPairs (holds : Item → Item → Except Fault Bool) :
    List Item → List Item → Except Fault Bool
  | [], [] => .ok true
  | a :: as, b :: bs => do if ← holds a b then allPairs holds as bs else return false
  | _, _ => .ok false

/-- Whether two sequences have the same length and hold the same items. -/
def sameItems (same : Item → Item → Except Fault Bool) (as bs : List Item) : Except Fault Bool :=
  if as.length = bs.length then
    allPairs (fun a b => if identical a b then .ok true else same a b) as bs
  else .ok false

/-- Whether a table holds the same items as another one under all keys of its own. -/
def sameUnder (same : Item → Item → Except Fault Bool) (more : Entries) :
    Entries → Except Fault Bool
  | [] => .ok true
  | (key, a) :: rest =>
      match more.find? (·.1 == key) with
      | none => .ok false
      | some (_, b) => do
          if identical a b then sameUnder same more rest
          else if ← same a b then sameUnder same more rest
          else return false

/-- The elements that a set is compared with: the productions of a grammar, or the elements of a
value. -/
def comparedWithSet (s : Store) (a : Item) : Except Fault Datum :=
  match a with
  | .grammar id => do return .list ((← (s.grammar id).productions).map .production)
  | _ => s.value a

/-- Whether two items are the same, found within a number of steps downwards. A blank node cannot be
compared with another node. -/
def sameWithin (s : Store) : Nat → Item → Item → Except Fault Bool
  | 0, _, _ => .error .endless
  | steps + 1, .node m, .node n => do
      let c ← s.cell m
      let d ← s.cell n
      if ← s.sameWithin steps c.label d.label then
        sameItems (s.sameWithin steps) c.children d.children
      else return false
  | steps + 1, .row m, .row n => sameItems (s.sameWithin steps) (s.row m) (s.row n)
  | steps + 1, .table m, .table n =>
      if (s.table m).length = (s.table n).length then
        sameUnder (s.sameWithin steps) (s.table n) (s.table m)
      else .ok false
  | _ + 1, .grammar m, .grammar n => .ok ((s.grammar m).equal (s.grammar n))
  | _ + 1, .plain d, .plain e => d.equalTo e
  | _ + 1, .node _, _ | _ + 1, _, .node _ => .ok false
  | _ + 1, .plain (.set xs), a | _ + 1, a, .plain (.set xs) => do
      DatumSet.equalTo ⟨xs⟩ (← s.comparedWithSet a)
  | _ + 1, _, _ => .ok false

/-- Whether two items are the same. -/
def same (s : Store) (a b : Item) : Except Fault Bool := s.sameWithin (s.levels + 1) a b

/-- The place of the first item that is the same as the given one, counted from `k`. -/
def placeFrom (s : Store) (item : Item) (k : Nat) : List Item → Except Fault Nat
  | [] => .error .unusable
  | a :: as => do
      if identical a item then return k
      else if ← s.same a item then return k
      else s.placeFrom item (k + 1) as

/-- Whether an item is the same as one of a sequence. -/
def among (s : Store) (item : Item) : List Item → Except Fault Bool
  | [] => .ok false
  | a :: as => do
      if identical a item then return true
      else if ← s.same a item then return true
      else s.among item as

/-- Whether an item occurs in another one: as an item of a list, as a key of a table, as an element
or a part of a value. -/
def mem (s : Store) (item own : Item) : Except Fault Bool :=
  match own with
  | .plain d => do (← s.value item).mem d
  | .table id => do
      let key ← readKey (← s.value item)
      return (s.table id).any (·.1 == key)
  | .grammar id => do (s.grammar id).contains (← s.value item)
  | _ => do s.among item (← s.sequence own)

/-- Whether an item can be asked where something occurs in it. -/
def findsPlaces : Item → Bool
  | .plain (.text _) | .plain (.tuple _) | .node _ | .row _ => true
  | _ => false

/-- The place where an item occurs first: among the children of a node, in a list, in a tuple, or,
as a text, in a text. -/
def indexOf (s : Store) (own item : Item) : Except Fault Nat :=
  match own, item with
  | .plain (.text word), .plain (.text part) =>
      match Text.cut? part.toList word.toList with
      | some (before, _) => .ok before.length
      | none => .error .unusable
  | .plain (.text _), _ => .error .wrongKind
  | _, _ =>
      if findsPlaces own then do s.placeFrom item 0 (← s.sequence own)
      else .error .noSuchPart

end Store

end PhraseStructure
