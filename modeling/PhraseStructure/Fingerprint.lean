import PhraseStructure.Datum.Basic

/-!
# Fingerprints

A value that may be a key of a mapping has a fingerprint, by which it is found. Values that are the
same have the same fingerprint, and a few other ones have, too: numbers are taken modulo a prime,
and the empty text counts as zero.
-/

namespace PhraseStructure

/-- What a key is found by. -/
inductive Fingerprint
  | nothing
  | number (residue : Int)
  | text (s : String)
  | tuple (parts : List Fingerprint)
  deriving Repr

namespace Fingerprint

mutual

/-- Whether two fingerprints are the same. -/
def same : Fingerprint → Fingerprint → Bool
  | nothing, nothing => true
  | number m, number n => m == n
  | text s, text t => s == t
  | tuple fs, tuple gs => sameAll fs gs
  | _, _ => false

/-- Whether two sequences hold the same fingerprints in the same order. -/
def sameAll : List Fingerprint → List Fingerprint → Bool
  | [], [] => true
  | f :: fs, g :: gs => same f g && sameAll fs gs
  | _, _ => false

end

instance : BEq Fingerprint := ⟨same⟩

/-- The modulus of the fingerprints of numbers. -/
def modulus : Nat := Nat.pow 2 61 - 1

/-- The power of two that takes the place of the unit of numbers with a point. As `2 ^ 61` leaves
one, `1 / 2 ^ 1074` leaves as much as `2 ^ 24`. -/
def unitResidue : Nat := Nat.pow 2 24

/-- The fingerprint of an infinite number. -/
def infinity : Int := 314159

/-- A residue with a sign; minus one is left out. -/
def signed (negative : Bool) (residue : Nat) : Int :=
  match Binary64.signed negative residue with
  | -1 => -2
  | n => n

/-- The fingerprint of a number. -/
def ofNumber : Number → Int
  | .whole n => signed (n < 0) (n.natAbs % modulus)
  | .binary (.finite negative units) => signed negative (units * unitResidue % modulus)
  | .binary (.infinite negative) => if negative then -infinity else infinity
  | .binary .undefined => 0

/-- The fingerprint of a text. -/
def ofText (s : String) : Fingerprint := if s.isEmpty then number 0 else text s

/-- The fingerprint of a sequence of symbols. -/
def ofSymbols (symbols : List Symbol) : Fingerprint := tuple (symbols.map (ofText ·.text))

mutual

/-- The fingerprint of a value that may be a key. -/
def ofDatum? : Datum → Option Fingerprint
  | .null => some nothing
  | .text s => some (ofText s)
  | .symbol s => some (ofText s.text)
  | .production p => some (tuple [ofSymbols p.head, ofSymbols p.daughters])
  | .tuple xs => (ofAll? xs).map tuple
  | .list _ | .set _ | .table _ => none
  | .bool b => some (number (if b then 1 else 0))
  | .int n => some (number (ofNumber (.whole n)))
  | .real x => some (number (ofNumber (.binary x)))

/-- The fingerprints of values that may be keys. -/
def ofAll? : List Datum → Option (List Fingerprint)
  | [] => some []
  | x :: xs => do
      let f ← ofDatum? x
      return f :: (← ofAll? xs)

end

/-- The fingerprints that occur an odd number of times; of two equal ones nothing is left. -/
def cancelPairs : List Fingerprint → List Fingerprint
  | [] => []
  | f :: fs =>
      let rest := cancelPairs fs
      if rest.contains f then rest.erase f else f :: rest

/-- Whether two sets of keys have the same fingerprint: they are of one size, and what is left of
their elements after pairs cancel out is the same, whatever the order. -/
def sameOfAll (xs ys : List Fingerprint) : Bool :=
  xs.length == ys.length && (cancelPairs xs).isPerm (cancelPairs ys)

end Fingerprint

end PhraseStructure
