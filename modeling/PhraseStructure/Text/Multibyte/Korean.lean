import PhraseStructure.Text.CharacterSet.Korean
import PhraseStructure.Text.Multibyte.Basic

/-!
# Korean in bytes

KS X 1001 is written in pairs of bytes of the upper half. It has the most frequent syllables only;
the other ones are written as four pairs, or with the pairs that code page 949 adds, or by their
parts, which are numbers of five bits in Johab.
-/

namespace PhraseStructure.Text.Multibyte

/-- The place in KS X 1001 of the sign for a missing part of a syllable. -/
def hangulFiller : Nat := 0xD4

/-- The syllable of an initial, a vowel and a final. -/
def syllable (initial vowel final : Nat) : Char :=
  Char.ofNat (0xAC00 + (initial * 21 + vowel) * 28 + final)

/-- The consonants in the order of KS X 1001, where finals and initials have a common row, as
initials. -/
def initials : List (Option Nat) := [
  some 0, some 1, none, some 2, none, none, some 3, some 4, some 5, none, none, none, none, none,
  none, none, some 6, some 7, some 8, none, some 9, some 10, some 11, some 12, some 13, some 14,
  some 15, some 16, some 17, some 18]

/-- The consonants in the order of KS X 1001 as finals. -/
def finals : List (Option Nat) := [
  some 1, some 2, some 3, some 4, some 5, some 6, some 7, none, some 8, some 9, some 10, some 11,
  some 12, some 13, some 14, some 15, some 16, some 17, none, some 18, some 19, some 20, some 21,
  some 22, none, some 23, some 24, some 25, some 26, some 27]

/-- The number of a consonant or a vowel from 0xA1 on. -/
def partNumber? (numbers : List (Option Nat)) (first b : Nat) : Option Nat :=
  if first ≤ b then (numbers[b - first]?).join else none

/-- The numbers of the vowels in their order. -/
def vowels : List (Option Nat) := (List.range 21).map some

/-- The syllable of the second bytes of three pairs: initial, vowel and final. -/
def spelled? (initial vowel final : Nat) : Option Char := do
  let i ← partNumber? initials 0xA1 initial
  let v ← partNumber? vowels 0xBF vowel
  let f ← if final = hangulFiller then some 0 else partNumber? finals 0xA1 final
  return syllable i v f

/-- Reads a character of KS X 1001, or four pairs that spell one: a filler and three parts. -/
def readEucKr (a : Nat) (rest : List Nat) : Option Reading :=
  if a = 0xA4 ∧ rest.head? = some hangulFiller then
    match rest with
    | _ :: 0xA4 :: i :: 0xA4 :: v :: 0xA4 :: f :: _ => (spelled? i v f).map (.of 7)
    | _ => none
  else readPairs (fun a b => (inUpperHalf .ksX1001 a b).map fun c => [c]) a rest

/-- The syllables that are not in KS X 1001. -/
def syllablesBeyondKsX1001 : Array Char := missingFrom .ksX1001 0xAC00 11172

/-- The place of a second byte among those that code page 949 adds: letters, and bytes of the upper
half. -/
def cp949Cell? (b : Nat) : Option Nat :=
  if 0x41 ≤ b ∧ b ≤ 0x5A then some (b - 0x41)
  else if 0x61 ≤ b ∧ b ≤ 0x7A then some (b - 0x61 + 26)
  else if 0x81 ≤ b ∧ b ≤ 0xFE then some (b - 0x81 + 52)
  else none

/-- The place of a pair among those that code page 949 adds: whole rows first, and then what
KS X 1001 leaves free to the left of its characters. -/
def cp949Place? (a b : Nat) : Option Nat := do
  let cell ← cp949Cell? b
  if 0x81 ≤ a ∧ a ≤ 0xA0 then return (a - 0x81) * 178 + cell
  else if 0xA1 ≤ a ∧ a ≤ 0xC6 ∧ cell < 84 then return 32 * 178 + (a - 0xA1) * 84 + cell
  else none

/-- The character of a pair in code page 949. -/
def cp949Pair (a b : Nat) : Option (List Char) :=
  (inUpperHalf .ksX1001 a b <|>
    (cp949Place? a b).bind fun place => syllablesBeyondKsX1001[place]?).map fun c => [c]

/-- A part of a syllable in five bits of Johab. -/
inductive JohabPart
  | missing
  | number (n : Nat)
  deriving DecidableEq, Repr

/-- The initial of five bits. -/
def johabInitial? (n : Nat) : Option JohabPart :=
  if n = 1 then some .missing
  else if 2 ≤ n ∧ n ≤ 20 then some (.number (n - 2))
  else none

/-- The vowel of five bits, some of which are skipped. -/
def johabVowel? (n : Nat) : Option JohabPart :=
  if n = 2 then some .missing
  else if 3 ≤ n ∧ n ≤ 7 then some (.number (n - 3))
  else if 10 ≤ n ∧ n ≤ 15 then some (.number (n - 5))
  else if 18 ≤ n ∧ n ≤ 23 then some (.number (n - 7))
  else if 26 ≤ n ∧ n ≤ 29 then some (.number (n - 9))
  else none

/-- The final of five bits, one of which is skipped. -/
def johabFinal? (n : Nat) : Option JohabPart :=
  if n = 1 then some .missing
  else if 2 ≤ n ∧ n ≤ 17 then some (.number (n - 1))
  else if 19 ≤ n ∧ n ≤ 29 then some (.number (n - 2))
  else none

/-- The letter on its own of a consonant that is the part with a number. -/
def consonant? (numbers : List (Option Nat)) (n : Nat) : Option Char :=
  if numbers.contains (some n) then some (Char.ofNat (0x3131 + numbers.idxOf (some n))) else none

/-- The syllable or letter of its parts in Johab. -/
def johabSyllable? : JohabPart → JohabPart → JohabPart → Option Char
  | .number i, .number v, .number f => some (syllable i v f)
  | .number i, .number v, .missing => some (syllable i v 0)
  | .number i, .missing, .missing => consonant? initials i
  | .missing, .number v, .missing => some (Char.ofNat (0x314F + v))
  | .missing, .missing, .number f => consonant? finals f
  | .missing, .missing, .missing => some '\u3000'
  | _, _, _ => none

/-- The character of KS X 1001 for a pair of Johab that is no syllable. Two rows are put side by
side. -/
def johabSign? (a b : Nat) : Option Char :=
  if a < 0xD9 ∨ a = 0xDF ∨ 0xF9 < a ∨ b < 0x31 ∨ (0x7F ≤ b ∧ b < 0x91) ∨ 0xFE < b
      ∨ (a = 0xDA ∧ 0xA1 ≤ b ∧ b ≤ 0xD3) then none
  else
    let pairOfRows := if a < 0xE0 then 2 * (a - 0xD9) else 2 * (a - 0xE0) + 41
    let cell := if b < 0x91 then b - 0x31 else b - 0x43
    if cell < 94 then CharacterSet.ksX1001.cell? (pairOfRows + 1) (cell + 1)
    else CharacterSet.ksX1001.cell? (pairOfRows + 2) (cell - 93)

/-- The character of a pair in Johab. -/
def johabPair (a b : Nat) : Option (List Char) :=
  let character := if a < 0xD8 then do
      johabSyllable? (← johabInitial? (a / 4 % 32)) (← johabVowel? (a % 4 * 8 + b / 32))
        (← johabFinal? (b % 32))
    else johabSign? a b
  character.map fun c => [c]

end PhraseStructure.Text.Multibyte
