import PhraseStructure.Text.CharacterSet.HongKong
import PhraseStructure.Text.CharacterSet.TraditionalChinese
import PhraseStructure.Text.Multibyte.Basic

/-!
# Traditional Chinese in bytes

Big5 is written in pairs of bytes. Code page 950 has a few signs of its own, and the Hong Kong set
adds rows and takes the place of those with other letters.
-/

namespace PhraseStructure.Text.Multibyte

/-- The character of a pair in Big5. -/
def big5Character? (a b : Nat) : Option Char :=
  CharacterSet.big5Lower.cell? a b <|> CharacterSet.big5Upper.cell? a b

/-- The characters of a pair in Big5. -/
def big5Pair (a b : Nat) : Option (List Char) := (big5Character? a b).map fun c => [c]

/-- The characters of a pair in code page 950. -/
def cp950Pair (a b : Nat) : Option (List Char) :=
  (CharacterSet.cp950Additions.cell? a b <|> big5Character? a b).map fun c => [c]

/-- Whether a pair belongs to the rows that the Hong Kong set takes over. -/
def isTakenOver (a b : Nat) : Bool := (a == 0xC6 && 0xA1 ≤ b) || a == 0xC7 || a == 0xC8

/-- The character of a pair that the Hong Kong set adds. -/
def hkscsCharacter? (a b : Nat) : Option Char :=
  CharacterSet.hkscsLower.cell? a b <|> CharacterSet.hkscsUpper.cell? a b <|>
    CharacterSet.hkscsAdditions.cell? a b

/-- The characters of a pair in Big5 with the Hong Kong set. -/
def hkscsPair (a b : Nat) : Option (List Char) :=
  let listed := if isTakenOver a b then none else big5Character? a b
  ((listed <|> hkscsCharacter? a b).map fun c => [c]) <|>
    Run.inCell? CharacterSet.hkscsPairs a b

end PhraseStructure.Text.Multibyte
