/-!
# Ordered sets

A set that remembers in which order its elements came. Elements are compared with `==`, and of
several equal ones the first is kept. Equality and inclusion of sets do not look at the order.
-/

namespace PhraseStructure

/-- The elements without those that equal an earlier one; `seen` came before. -/
def distinctFrom {α : Type} [BEq α] (seen : List α) : List α → List α
  | [] => []
  | x :: xs => if seen.contains x then distinctFrom seen xs else x :: distinctFrom (x :: seen) xs

/-- The elements without those that equal an earlier one. -/
def distinct {α : Type} [BEq α] (xs : List α) : List α := distinctFrom [] xs

/-- A set with the order of its elements. -/
structure OrderedSet (α : Type) [BEq α] where
  /-- The elements in order, each once. -/
  toList : List α

namespace OrderedSet

variable {α : Type} [BEq α]

/-- The set of the elements of a list, in order of first occurrence. -/
def ofList (xs : List α) : OrderedSet α := ⟨distinct xs⟩

def size (s : OrderedSet α) : Nat := s.toList.length

def contains (s : OrderedSet α) (x : α) : Bool := s.toList.contains x

/-- Inclusion, whatever the order. -/
def subset (s t : OrderedSet α) : Bool := s.toList.all t.contains

/-- Equality, whatever the order. -/
def equal (s t : OrderedSet α) : Bool := s.subset t && t.subset s

/-- Inclusion without equality. -/
def properSubset (s t : OrderedSet α) : Bool := s.subset t && !t.subset s

/-- The elements of `s` that satisfy a condition, in the order of `s`. -/
def filter (s : OrderedSet α) (keep : α → Bool) : OrderedSet α := ofList (s.toList.filter keep)

/-- The common elements, in the order of the first set. -/
def inter (s t : OrderedSet α) : OrderedSet α := s.filter t.contains

/-- The elements of the first set, then the further ones of the second. -/
def union (s t : OrderedSet α) : OrderedSet α := ofList (s.toList ++ t.toList)

/-- The elements of the first set that are not in the second. -/
def diff (s t : OrderedSet α) : OrderedSet α := s.filter (!t.contains ·)

/-- The elements of one set only: those of the first, then those of the second. -/
def symmDiff (s t : OrderedSet α) : OrderedSet α := (s.diff t).union (t.diff s)

end OrderedSet

end PhraseStructure
