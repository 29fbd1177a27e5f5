import PhraseStructure.Text.DomainName.Direction
import PhraseStructure.Text.DomainName.Unprepared
import PhraseStructure.Text.Normal.Basic
import PhraseStructure.Text.Punycode

/-!
# Domain names

A domain name consists of parts between points. A part with characters outside of the basic block is
written in Punycode behind a mark. Such a part is read only if it is what its text is written as:
the text is a prepared one (`isPrepared`), apart from capital letters of the basic block, and does
not start with the mark itself.
-/

namespace PhraseStructure.Text.DomainName

/-- The mark in front of a part that is written in other characters. -/
def partMark : List UInt8 := [0x78, 0x6E, 0x2D, 0x2D]

/-- The number of bytes that a part with a mark does not reach. -/
def partLimit : Nat := 64

/-- A capital letter of the basic block as a small one. -/
def makeSmall (n : Nat) : Nat := if 0x41 ≤ n ∧ n ≤ 0x5A then n + 0x20 else n

/-- Whether preparation leaves a text as it is. -/
def isPrepared (codes : List Nat) : Bool :=
  codes.all (!isUnprepared ·) && Normal.isComposed codes && hasOneDirection codes

/-- Whether bytes behind a mark are what a text is written as. -/
def isWrittenForm (bytes : List UInt8) (codes : List Nat) : Bool :=
  let small := codes.map makeSmall
  let (basic, distances) := Punycode.splitAtDash bytes
  codes.any (0x80 ≤ ·) && isPrepared small && !(partMark.map UInt8.toNat).isPrefixOf small &&
    (!basic.isEmpty || distances.length == bytes.length) &&
    partMark.length + bytes.length < partLimit

/-- The text of a part. -/
def decodePart (bytes : List UInt8) : Except DecodingFault (List Char) :=
  if partMark.isPrefixOf bytes then do
    let written := bytes.drop partMark.length
    let codes ← Punycode.decodeNumbers written
    if isWrittenForm written codes then return codes.map Char.ofNat
    else throw ⟨"idna", bytes.headD 0, 0, bytes.length, .badInsertion⟩
  else .ok (Punycode.basicText bytes)

/-- The parts of bytes between points. -/
def partsFrom (part : List UInt8) : List UInt8 → List (List UInt8)
  | [] => [part.reverse]
  | b :: bytes =>
      if b = 0x2E then part.reverse :: partsFrom [] bytes else partsFrom (b :: part) bytes

/-- The text of a domain name. -/
def decode (bytes : List UInt8) : Except DecodingFault (List Char) := do
  Punycode.checkBasic "ascii" bytes
  let parts ← (partsFrom [] bytes).mapM decodePart
  return ['.'].intercalate parts

end PhraseStructure.Text.DomainName
