import PhraseStructure.Datum.Sequence
import PhraseStructure.Fingerprint

/-!
# Hashes

The hash of a key is a word of 64 bits with a sign, made from its fingerprint: that of a number is
its residue, and those of a sequence are mixed in order. The elements of a set are mixed so that
their order does not matter. A text that is not empty is hashed by chance, so it has no hash that is
known.
-/

namespace PhraseStructure

/-- A word as a number with a sign. -/
def wordInt (w : UInt64) : Int := if w < 0x8000000000000000 then w.toNat else w.toNat - Nat.pow 2 64

/-- The word of a number with a sign. -/
def intWord (i : Int) : UInt64 := UInt64.ofNat (i % Int.ofNat (Nat.pow 2 64)).toNat

/-- A word mixed into a sum: it is multiplied and added, and the sum is turned by 31 bits and
multiplied again. -/
def mix (sum w : UInt64) : UInt64 :=
  let sum := sum + w * 14029467366897019727
  ((sum <<< 31) ||| (sum >>> 33)) * 11400714785074694791

/-- Words mixed in order. The word of all ones is left out. -/
def mixInOrder (words : List UInt64) : UInt64 :=
  let start : UInt64 := 2870177450012600261
  let mixed : UInt64 := words.foldl mix start
  let sum := mixed + (UInt64.ofNat words.length ^^^ start ^^^ (3527539 : UInt64))
  if sum = 0xFFFFFFFFFFFFFFFF then 1546275796 else sum

/-- A word with its bits scattered. -/
def scatter (w : UInt64) : UInt64 := (w ^^^ (89869747 : UInt64) ^^^ (w <<< 16)) * 3644798167

/-- Words mixed whatever their order. The word of all ones is left out. -/
def mixInAnyOrder (words : List UInt64) : UInt64 :=
  let mixed : UInt64 := words.foldl (fun sum w => sum ^^^ scatter w) 0
  let mixed := mixed ^^^ (UInt64.ofNat (words.length + 1) * 1927868237)
  let sum := (mixed ^^^ (mixed >>> 11) ^^^ (mixed >>> 25)) * 69069 + 907133923
  if sum = 0xFFFFFFFFFFFFFFFF then 590923713 else sum

namespace Fingerprint

mutual

/-- The word that a fingerprint is hashed to, if that is known. -/
def word? : Fingerprint → Option UInt64
  | nothing | text _ => none
  | number residue => some (intWord residue)
  | tuple parts => (words? parts).map mixInOrder

/-- The words that fingerprints are hashed to. -/
def words? : List Fingerprint → Option (List UInt64)
  | [] => some []
  | f :: fs => do
      let w ← word? f
      return w :: (← words? fs)

end

end Fingerprint

/-- The hash of a key or of a set, if it is known. -/
def Datum.hash (d : Datum) : Except Fault (Option Int) :=
  match d with
  | set xs =>
      .ok ((Fingerprint.ofAll? xs >>= Fingerprint.words?).map fun words =>
        wordInt (mixInAnyOrder words))
  | _ =>
      match Fingerprint.ofDatum? d with
      | some f => .ok (f.word?.map wordInt)
      | none => .error .wrongKind

end PhraseStructure
