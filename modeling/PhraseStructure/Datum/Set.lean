import PhraseStructure.Datum.Sequence
import PhraseStructure.Fingerprint
import PhraseStructure.OrderedSet

/-!
# Sets of values

An ordered set of values, and what it does with another value beside it: with a set, or with
whatever has elements. Only keys can be elements. Sets can be compared by inclusion with sets only.
-/

namespace PhraseStructure

/-- A set of values. -/
abbrev DatumSet := OrderedSet Datum

namespace DatumSet

/-- The set of the elements of a list, all of which have to be keys. -/
def ofElements (elements : List Datum) : Except Fault DatumSet :=
  if Datum.areKeys elements then .ok (.ofList elements) else .error .wrongKind

/-- The set of the elements of a value. What stands for nothing has none, whatever it is. -/
def ofDatum (given : Datum) : Except Fault DatumSet :=
  if given.isVoid then .ok (.ofList [])
  else
    match given.elements? with
    | some elements => ofElements elements
    | none => .error .wrongKind

/-- The set as a value. -/
def toDatum (s : DatumSet) : Datum := .set s.toList

/-- A set in a listing. -/
def shown (s : DatumSet) : String := s.toDatum.shown

/-- Whether a key is in the set; other values cannot be looked for. -/
def mem (s : DatumSet) (x : Datum) : Except Fault Bool :=
  if x.isKey then .ok (s.contains x) else .error .wrongKind

end DatumSet

namespace Datum

/-- The elements as a set. -/
def toSet (d : Datum) : Except Fault DatumSet := do DatumSet.ofElements (← d.toElements)

/-- The set that a value is; sets are included in nothing else. -/
def asSet : Datum → Except Fault DatumSet
  | set xs => .ok ⟨xs⟩
  | _ => .error .wrongKind

end Datum

namespace DatumSet

variable (a : DatumSet) (b : Datum)

/-- Whether a value has the same elements; a value without elements differs from every set. -/
def equalTo : Except Fault Bool :=
  match b.elements? with
  | some elements => do return a.equal (← ofElements elements)
  | none => .ok false

/-- Whether two sets have the same fingerprint. -/
def sameFingerprint (c : DatumSet) : Bool :=
  match Fingerprint.ofAll? a.toList, Fingerprint.ofAll? c.toList with
  | some fs, some gs => Fingerprint.sameOfAll fs gs
  | _, _ => false

/-- The elements that occur in the operand. -/
def interWith : Except Fault DatumSet := do
  let _ ← b.toElements
  return .ofList (← a.toList.filterM (Datum.mem · b))

/-- The elements of the operand that are in the set, in the order of the operand. -/
def interFrom : Except Fault DatumSet := do return .ofList (← (← b.toElements).filterM a.mem)

def unionWith : Except Fault DatumSet := do return a.union (← b.toSet)

/-- The union in which the operand comes first if it is a set. -/
def unionFrom : Except Fault DatumSet :=
  match b with
  | .set xs => .ok (OrderedSet.union ⟨xs⟩ a)
  | _ => a.unionWith b

def diffWith : Except Fault DatumSet := do return a.diff (← b.toSet)

/-- The elements of the operand that are not in the set. -/
def diffFrom : Except Fault DatumSet := do return (← b.toSet).diff a

def symmDiffWith : Except Fault DatumSet := do return a.symmDiff (← b.toSet)

/-- The elements of one side only, those of the operand first if it is a set. -/
def symmDiffFrom : Except Fault DatumSet :=
  match b with
  | .set xs => .ok (OrderedSet.symmDiff ⟨xs⟩ a)
  | _ => a.symmDiffWith b

def subsetOf : Except Fault Bool := do return a.subset (← b.asSet)

def properSubsetOf : Except Fault Bool := do return a.properSubset (← b.asSet)

def supersetOf : Except Fault Bool := do return (← b.asSet).subset a

def properSupersetOf : Except Fault Bool := do return (← b.asSet).properSubset a

/-- Whether none of the values of a list is in the set. Those behind one that is are not looked
at. -/
def avoids : List Datum → Except Fault Bool
  | [] => .ok true
  | x :: xs => do if ← a.mem x then return false else avoids xs

/-- Whether no element of the operand is in the set. -/
def isDisjointFrom : Except Fault Bool := do a.avoids (← b.toElements)

end DatumSet

namespace Datum

/-- Whether two values are equal. A set equals everything that has the same elements. -/
def equalTo (a b : Datum) : Except Fault Bool :=
  match a, b with
  | set xs, _ => DatumSet.equalTo ⟨xs⟩ b
  | _, set ys => DatumSet.equalTo ⟨ys⟩ a
  | _, _ => .ok (a == b)

/-- The elements of one value that are not among those of another, one of which is a set; or the
difference of two numbers. -/
def minus (a b : Datum) : Except Fault Datum :=
  match a, b with
  | set xs, _ => do return (← DatumSet.diffWith ⟨xs⟩ b).toDatum
  | _, set ys => do return (← DatumSet.diffFrom ⟨ys⟩ a).toDatum
  | _, _ => addNumbers a.number? (b.number?.map Number.neg)

end Datum

end PhraseStructure
