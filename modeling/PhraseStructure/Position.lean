import PhraseStructure.Fault

/-!
# Positions in a sequence

A position may be counted from the end by a negative number. A slice names several positions: from
a start up to a stop, in steps. Bounds of a slice may lie outside the sequence and are moved to its
ends.
-/

namespace PhraseStructure

/-- The place that `i` names in a sequence of `n` elements. -/
def resolveIndex (n : Nat) (i : Int) : Option Nat :=
  let j := if i < 0 then i + n else i
  if 0 ≤ j ∧ j < n then some j.toNat else none

/-- An index that is found names one of the `n` elements. -/
theorem lt_of_resolveIndex {n k : Nat} {i : Int} (h : resolveIndex n i = some k) : k < n := by
  unfold resolveIndex at h
  simp only [Option.ite_none_right_eq_some, Option.some.injEq] at h
  omega

/-- Whether a number fits a machine word of 64 bits, one of which is the sign. -/
def fitsWord (i : Int) : Bool := -Int.ofNat (Nat.pow 2 63) ≤ i && i < Int.ofNat (Nat.pow 2 63)

/-- The index that is given as a number. -/
def readIndex (given : Datum) : Except Fault Int :=
  match given.int? with
  | some i => .ok i
  | none => .error .wrongKind

/-- The index that is given as a number, which has to fit a machine word. -/
def readWordIndex (given : Datum) : Except Fault Int := do
  let i ← readIndex given
  if fitsWord i then return i else throw .tooLarge

/-- The place in front of which an element is inserted: outside the sequence, at its end. -/
def insertionPlace (n : Nat) (i : Int) : Nat :=
  let j := if i < 0 then i + n else i
  (max 0 (min j n)).toNat

section Elements

variable {α : Type} (xs : List α) (i : Int)

/-- The element with an index. -/
def elementAt : Except Fault α :=
  match resolveIndex xs.length i >>= (xs[·]?) with
  | some x => .ok x
  | none => .error .outOfRange

/-- The sequence with another element in the place of that with an index. -/
def replaceAt (x : α) : Except Fault (List α) :=
  match resolveIndex xs.length i with
  | some k => .ok (xs.set k x)
  | none => .error .outOfRange

/-- The sequence without the element with an index. -/
def eraseAt : Except Fault (List α) :=
  match resolveIndex xs.length i with
  | some k => .ok (xs.eraseIdx k)
  | none => .error .outOfRange

/-- The sequence with a further element in front of that with an index. -/
def insertAt (x : α) : List α :=
  let place := insertionPlace xs.length i
  xs.take place ++ x :: xs.drop place

end Elements

/-- The bounds and the step of a slice; bounds that are missing are chosen to cover the sequence. -/
structure Slice where
  start : Option Int
  stop : Option Int
  step : Int
  step_ne_zero : step ≠ 0

/-- A slice as it is given: each part is a whole number, or is missing. -/
structure SliceRequest where
  start : Datum := .null
  stop : Datum := .null
  step : Datum := .null

namespace SliceRequest

/-- A part of a slice. -/
def readPart : Datum → Except Fault (Option Int)
  | .null => .ok none
  | given =>
      match given.int? with
      | some i => .ok (some i)
      | none => .error .wrongKind

/-- The slice that is given. Its step is looked at first; it is one if it is missing, and may not be
zero. -/
def read (r : SliceRequest) : Except Fault Slice := do
  let step := (← readPart r.step).getD 1
  if h : step ≠ 0 then return ⟨← readPart r.start, ← readPart r.stop, step, h⟩
  else throw .unusable

end SliceRequest

/-- What may be given to name elements. -/
inductive Address
  | slice (r : SliceRequest)
  /-- An index, a position, or a key. -/
  | place (given : Datum)

namespace Slice

/-- A bound counted from the front and moved between `low` and `high`. -/
def clamp (n : Nat) (low high i : Int) : Int :=
  let j := if i < 0 then i + n else i
  if j < low then low else if high < j then high else j

/-- The first place and the place that is not reached any more, for a sequence of `n` elements. -/
def bounds (s : Slice) (n : Nat) : Int × Int :=
  if s.step < 0 then
    ((s.start.map (clamp n (-1) (n - 1))).getD (n - 1),
      (s.stop.map (clamp n (-1) (n - 1))).getD (-1))
  else ((s.start.map (clamp n 0 n)).getD 0, (s.stop.map (clamp n 0 n)).getD n)

/-- The number of places from `first` on, before `last`, in steps of `step`. -/
def count (first last step : Int) : Nat :=
  if step < 0 then
    if last < first then ((first - last - 1) / (-step) + 1).toNat else 0
  else if first < last then ((last - first - 1) / step + 1).toNat
  else 0

/-- The places of a slice in a sequence of `n` elements. -/
def places (s : Slice) (n : Nat) : List Nat :=
  let (first, last) := s.bounds n
  (List.range (count first last s.step)).map fun (k : Nat) => (first + k * s.step).toNat

variable {α : Type}

/-- The elements at the places of a slice. -/
def take (s : Slice) (xs : List α) : List α :=
  let array := xs.toArray
  (s.places xs.length).filterMap (array[·]?)

/-- The sequence without the elements at the places of a slice. -/
def erase (s : Slice) (xs : List α) : List α :=
  let places := s.places xs.length
  (xs.zipIdx.filter fun (_, k) => !places.contains k).map Prod.fst

/-- Writes values to the given places, one to each. -/
def writeAt (xs : List α) : List (Nat × α) → List α
  | [] => xs
  | (k, x) :: rest => writeAt (xs.set k x) rest

/-- Writes values to the places of a slice. In steps of one any number of values may take the place
of the slice; otherwise there must be as many values as places. -/
def assign (s : Slice) (xs values : List α) : Except Fault (List α) :=
  let places := s.places xs.length
  if s.step = 1 then
    let (first, last) := s.bounds xs.length
    .ok (xs.take first.toNat ++ values ++ xs.drop (max first last).toNat)
  else if values.length = places.length then .ok (writeAt xs (places.zip values))
  else .error .unusable

end Slice

end PhraseStructure
