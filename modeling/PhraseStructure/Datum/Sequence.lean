import PhraseStructure.Position
import PhraseStructure.Text.Cut

/-!
# Values as sequences

What can be done with a value that has elements: they are counted, looked for, and named by an index
or a slice. Two values of one kind can be put together, and numbers can be added.
-/

namespace PhraseStructure.Datum

/-- The elements in order; those of a text are its characters, those of a table its keys. -/
def toElements (d : Datum) : Except Fault (List Datum) :=
  match d.elements? with
  | some elements => .ok elements
  | none => .error .wrongKind

/-- The number of elements. The two sides of a production do not count. -/
def length (d : Datum) : Except Fault Nat :=
  match d with
  | production _ => .error .wrongKind
  | _ => do return (← d.toElements).length

/-- Whether a value is looked for by its fingerprint, which only keys have. -/
def findsKeys : Datum → Bool
  | set _ | table _ => true
  | _ => false

/-- Whether a value occurs in another one: as an element, as a key, or as a part of a text. -/
def mem (x : Datum) (d : Datum) : Except Fault Bool :=
  match d, x with
  | text s, text part => .ok (Text.contains part.toList s.toList)
  | text _, _ => .error .wrongKind
  | _, _ => do
      let elements ← d.toElements
      if d.findsKeys && !x.isKey then throw .wrongKind
      return elements.any (·.same x)

/-- What an address names in a value. A slice of a set is a tuple, and one of a text is a text. -/
def get (d : Datum) (address : Address) : Except Fault Datum :=
  match d, address with
  | text s, .slice r => do return text (String.ofList ((← r.read).take s.toList))
  | tuple xs, .slice r | set xs, .slice r => do return tuple ((← r.read).take xs)
  | text _, .place given | tuple _, .place given | set _, .place given => do
      elementAt (← d.toElements) (← readIndex given)
  | _, _ => .error .wrongKind

/-- The sum of two numbers. -/
def addNumbers (a b : Option Number) : Except Fault Datum :=
  match a, b with
  | some m, some n =>
      match m.add? n with
      | some x => .ok (ofNumber x)
      | none => .error .tooLarge
  | _, _ => .error .wrongKind

/-- Two sequences of one kind as one, or the sum of two numbers. -/
def plus (a b : Datum) : Except Fault Datum :=
  match a, b with
  | text s, text t => .ok (text (s ++ t))
  | tuple xs, tuple ys => .ok (tuple (xs ++ ys))
  | _, _ => addNumbers a.number? b.number?

end PhraseStructure.Datum
