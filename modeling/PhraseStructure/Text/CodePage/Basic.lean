import PhraseStructure.Text.Utf8

/-!
# Code pages

A code page says which character each byte stands for. Most pages start with the basic block, and
differ in the characters behind it.
-/

namespace PhraseStructure.Text

/-- The characters of the bytes. -/
structure CodePage where
  /-- The first byte that is listed; a byte before it stands for the character with its number. -/
  first : Nat
  /-- The characters from the first one on. The replacement character stands where there is none. -/
  rows : List String
  deriving Repr

namespace CodePage

/-- What stands in a page where there is no character. -/
def blank : Char := '\uFFFD'

/-- The listed characters. -/
def characters (page : CodePage) : Array Char := (page.rows.flatMap String.toList).toArray

/-- The characters that bytes from a place on stand for; `decoded` holds those before, in
reverse. -/
def decodeFrom (first : Nat) (listed : Array Char) (place : Nat) (decoded : List Char) :
    List UInt8 → Except DecodingFault (List Char)
  | [] => .ok decoded.reverse
  | b :: rest =>
      let c := if b.toNat < first then Char.ofNat b.toNat
        else (listed[b.toNat - first]?).getD blank
      if c = blank then .error ⟨"charmap", b, place, 1, .noCharacter⟩
      else decodeFrom first listed (place + 1) (c :: decoded) rest

/-- The text of bytes that are one character each. -/
def decode (page : CodePage) (bytes : List UInt8) : Except DecodingFault (List Char) :=
  decodeFrom page.first page.characters 0 [] bytes

end CodePage

end PhraseStructure.Text
