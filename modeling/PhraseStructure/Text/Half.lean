/-!
# Halves of characters

In units of 16 bits, a character beyond the first 65536 is written as two halves. Some encodings let
a half stand alone. It is no character, so in a text a private character stands for it; quoted text
shows the number of the half.
-/

namespace PhraseStructure.Text

/-- Whether a number is that of a half. -/
def isHalf (code : Nat) : Bool := 0xD800 ≤ code && code < 0xE000

/-- The distance from a half to the private character that stands for it. -/
def halfDistance : Nat := 0xED000

/-- The character with a number, or the one that stands for a half. -/
def ofCode (code : Nat) : Char :=
  Char.ofNat (if isHalf code then code + halfDistance else code)

/-- The number of a character, or of the half that it stands for. -/
def codeOf (c : Char) : Nat :=
  if isHalf (c.toNat - halfDistance) then c.toNat - halfDistance else c.toNat

end PhraseStructure.Text
