import PhraseStructure.Text.CharacterSet.Basic
import PhraseStructure.Text.Utf8

/-!
# Characters of several bytes

In an encoding of several bytes, the first byte of a character says how many bytes belong to it.
Some encodings also have bytes that stand for nothing and switch to another character set, which
is the state that reading goes on in.
-/

namespace PhraseStructure.Text.Multibyte

/-- What the bytes at the front of a text stand for. -/
structure Step (σ : Type) where
  characters : List Char
  /-- The number of bytes behind the first one that were read. -/
  further : Nat
  /-- The state behind these bytes. -/
  state : σ

/-- Decodes bytes from a place on, where `read` reads a first byte and what it needs of the bytes
behind it; `decoded` holds the characters before the place, in reverse. -/
def decodeFrom {σ : Type} (name : String) (read : σ → Nat → List Nat → Option (Step σ))
    (place : Nat) (decoded : List Char) (state : σ) (bytes : List Nat) :
    Except DecodingFault (List Char) :=
  match bytes with
  | [] => .ok decoded.reverse
  | b :: rest =>
      match read state b rest with
      | none => .error ⟨name, b.toUInt8, place, 1, .illegalSequence⟩
      | some step =>
          decodeFrom name read (place + 1 + step.further) (step.characters.reverse ++ decoded)
            step.state (rest.drop step.further)
termination_by bytes.length
decreasing_by
  simp only [List.length_drop, List.length_cons]
  omega

/-- Decodes bytes that switch between character sets. -/
def decodeSwitching {σ : Type} (name : String) (read : σ → Nat → List Nat → Option (Step σ))
    (start : σ) (bytes : List UInt8) : Except DecodingFault (List Char) :=
  decodeFrom name read 0 [] start (bytes.map UInt8.toNat)

/-- What the bytes at the front of a text stand for, where nothing has to be remembered. -/
abbrev Reading := Step Unit

/-- A character that is read from a first byte and further ones. -/
def Reading.of (further : Nat) (c : Char) : Reading := ⟨[c], further, ()⟩

/-- Decodes bytes each of which belongs to a character. -/
def decode (name : String) (read : Nat → List Nat → Option Reading) (bytes : List UInt8) :
    Except DecodingFault (List Char) :=
  decodeSwitching name (fun _ => read) () bytes

/-- Reads a byte of the basic block, or a pair of bytes that `pair` says the characters of. -/
def readPairs (pair : Nat → Nat → Option (List Char)) (a : Nat) (rest : List Nat) :
    Option Reading :=
  if a < 0x80 then some (.of 0 (Char.ofNat a))
  else
    match rest with
    | [] => none
    | b :: _ => (pair a b).map fun characters => ⟨characters, 1, ()⟩

/-- The character that a pair of bytes names in the upper half, where the first row and the first
cell are at 0xA1. -/
def inUpperHalf (set : CharacterSet) (a b : Nat) : Option Char := set.cell? (a - 0xA0) (b - 0xA0)

/-- The characters of a block of numbers that a set does not have, in order. -/
def missingFrom (set : CharacterSet) (first count : Nat) : Array Char :=
  let listed := set.runs.foldl (fun listed run =>
    run.characters.toList.foldl (fun listed c =>
      if first ≤ c.toNat then listed.setIfInBounds (c.toNat - first) true else listed) listed)
    (Array.replicate count false)
  (((Array.range count).filter fun k => !(listed[k]?).getD true).map fun k =>
    Char.ofNat (first + k))

end PhraseStructure.Text.Multibyte
