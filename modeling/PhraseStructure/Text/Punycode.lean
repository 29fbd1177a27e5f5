import PhraseStructure.Text.Half
import PhraseStructure.Text.Utf8

/-!
# Punycode

Text in the bytes of the basic block: first the characters of the basic block as they are, and
behind the last dash the other ones, as the distances between the places where they are inserted.
-/

namespace PhraseStructure.Text.Punycode

/-- The value of a digit: letters come before numerals. -/
def digitValue? (b : UInt8) : Option Nat :=
  let n := b.toNat
  if 0x61 ≤ n ∧ n ≤ 0x7A then some (n - 0x61)
  else if 0x41 ≤ n ∧ n ≤ 0x5A then some (n - 0x41)
  else if 0x30 ≤ n ∧ n ≤ 0x39 then some (n - 0x30 + 26)
  else none

/-- The least digit that is not the last one of a number, at the `k`-th of its digits. -/
def threshold (bias k : Nat) : Nat := max 1 (min 26 (36 * (k + 1) - bias))

/-- A number at the front, and the bytes behind it. Its first digit counts least, and a digit below
the threshold is the last one. -/
def readDistance? (bias : Nat) (k weight value : Nat) : List UInt8 → Option (Nat × List UInt8)
  | [] => none
  | b :: rest => do
      let digit ← digitValue? b
      let t := threshold bias k
      if digit < t then return (value + digit * weight, rest)
      else readDistance? bias (k + 1) (weight * (36 - t)) (value + digit * weight) rest

/-- Reading a distance takes at least one byte. -/
theorem length_of_readDistance? {bias k weight value n : Nat} {bytes rest : List UInt8}
    (h : readDistance? bias k weight value bytes = some (n, rest)) :
    rest.length < bytes.length := by
  induction bytes generalizing k weight value with
  | nil => simp [readDistance?] at h
  | cons b bytes ih =>
      obtain ⟨digit, -, h⟩ := Option.bind_eq_some_iff.mp h
      dsimp only at h
      split at h
      · obtain ⟨-, rfl⟩ := Prod.mk.inj (Option.some.inj h)
        simp
      · exact Nat.lt_succ_of_lt (ih h)

/-- The number of digits by which the thresholds move, and what is left of a distance. -/
def scaled (distance moved : Nat) : Nat × Nat :=
  if 455 < distance then scaled (distance / 35) (moved + 36) else (distance, moved)
termination_by distance
decreasing_by exact Nat.div_lt_self (by omega) (by omega)

/-- The bias after a distance, where the text has `size` characters then. -/
def adapt (distance size : Nat) (isFirst : Bool) : Nat :=
  let distance := if isFirst then distance / 700 else distance / 2
  let (rest, moved) := scaled (distance + distance / size) 0
  moved + 36 * rest / (rest + 38)

/-- Inserts the code points whose distances the bytes are. The last one was a number and stood in
front of a place. -/
def insertFrom (isFirst : Bool) (bias number place : Nat) (text : List Nat)
    (bytes : List UInt8) : Option (List Nat) :=
  match bytes with
  | [] => some text
  | b :: bytes =>
      match h : readDistance? bias 0 1 0 (b :: bytes) with
      | none => none
      | some (distance, rest) =>
          let size := text.length + 1
          let number := number + (place + distance) / size
          let place := (place + distance) % size
          if 0x10FFFF < number then none
          else
            insertFrom false (adapt distance size isFirst) number (place + 1)
              (text.insertIdx place number) rest
termination_by bytes.length
decreasing_by exact length_of_readDistance? h

/-- The parts in front of and behind the last dash. -/
def splitAtDash (bytes : List UInt8) : List UInt8 × List UInt8 :=
  let isOther := fun (b : UInt8) => b != 0x2D
  let behind := (bytes.reverse.takeWhile isOther).reverse
  (((bytes.reverse.dropWhile isOther).drop 1).reverse, behind)

/-- The first byte outside the basic block. -/
def checkBasic (name : String) (bytes : List UInt8) : Except DecodingFault Unit :=
  match bytes.findIdx? (0x80 ≤ ·) with
  | none => .ok ()
  | some place => .error ⟨name, bytes.getD place 0, place, 1, .outsideBasicBlock⟩

/-- Bytes of the basic block as text. -/
def basicText (bytes : List UInt8) : List Char := bytes.map fun b => Char.ofNat b.toNat

/-- The code points of the text that bytes stand for. -/
def decodeNumbers (bytes : List UInt8) : Except DecodingFault (List Nat) := do
  checkBasic "ascii" bytes
  let (basic, distances) := splitAtDash bytes
  match insertFrom true 72 0x80 0 (basic.map UInt8.toNat) distances with
  | some codes => return codes
  | none => throw ⟨"punycode", bytes.headD 0, 0, bytes.length, .badInsertion⟩

/-- The text of bytes. -/
def decode (bytes : List UInt8) : Except DecodingFault (List Char) := do
  return (← decodeNumbers bytes).map ofCode

end PhraseStructure.Text.Punycode
