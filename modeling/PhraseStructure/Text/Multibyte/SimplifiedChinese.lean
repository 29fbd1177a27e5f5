import PhraseStructure.Text.CharacterSet.SimplifiedChinese
import PhraseStructure.Text.Multibyte.Basic

/-!
# Simplified Chinese in bytes

GB 2312 is written in pairs of bytes of the upper half. GBK uses more pairs, mostly for the Chinese
characters of the first block in order, and GB 18030 gives every pair a meaning and adds groups of
four bytes for all that is left. HZ keeps to the bytes of the basic block and marks where Chinese
begins and ends.
-/

namespace PhraseStructure.Text.Multibyte

/-- The character of a pair in GB 2312. -/
def gb2312Pair (a b : Nat) : Option (List Char) :=
  (inUpperHalf .gb2312 a b).map fun c => [c]

/-- The Chinese characters of the first block that are not in GB 2312. -/
def hanziBeyondGb2312 : Array Char := missingFrom .gb2312 0x4E00 20902

/-- The place of a second byte of GBK among all that are possible; 0x7F is none of them. -/
def gbkCell? (b : Nat) : Option Nat :=
  if 0x40 ≤ b ∧ b < 0x7F then some (b - 0x40)
  else if 0x80 ≤ b ∧ b < 0xFF then some (b - 0x41)
  else none

/-- The place of a pair among those that GBK has for Chinese characters in order: whole rows first,
and then what GB 2312 leaves free to the left of its characters. -/
def gbkOrderedPlace? (a b : Nat) : Option Nat := do
  let cell ← gbkCell? b
  if 0x81 ≤ a ∧ a ≤ 0xA0 then return (a - 0x81) * 190 + cell
  else if 0xAA ≤ a ∧ a ≤ 0xFE ∧ cell < 96 then return 32 * 190 + (a - 0xAA) * 96 + cell
  else none

/-- The character of a pair in GBK. -/
def gbkCharacter? (a b : Nat) : Option Char :=
  CharacterSet.gbkAdditions.cell? a b <|>
    ((gbkOrderedPlace? a b).bind fun place => hanziBeyondGb2312[place]?) <|>
    inUpperHalf .gb2312 a b

/-- The characters of a pair in GBK. -/
def gbkPair (a b : Nat) : Option (List Char) := (gbkCharacter? a b).map fun c => [c]

/-- The character for private use of a pair in the three areas that are kept for it. -/
def gb18030Private? (a b : Nat) : Option Char := do
  let cell ← gbkCell? b
  if 0xA1 ≤ b then
    if 0xAA ≤ a ∧ a ≤ 0xAF then return Char.ofNat (0xE000 + 94 * (a - 0xAA) + (b - 0xA1))
    else if 0xF8 ≤ a ∧ a ≤ 0xFE then return Char.ofNat (0xE234 + 94 * (a - 0xF8) + (b - 0xA1))
    else none
  else if 0xA1 ≤ a ∧ a ≤ 0xA7 then return Char.ofNat (0xE4C6 + 96 * (a - 0xA1) + cell)
  else none

/-- The character for private use of a pair that GBK has free; these are numbered one after the
other, from `number` on. -/
def gapCharacter? (a b number : Nat) : List (Nat × Nat × Nat) → Option Char
  | [] => none
  | (row, first, count) :: gaps =>
      match gbkCell? b, gbkCell? first with
      | some cell, some start =>
          if row = a ∧ start ≤ cell ∧ cell < start + count then
            some (Char.ofNat (number + (cell - start)))
          else gapCharacter? a b (number + count) gaps
      | _, _ => none

/-- The character of a pair in GB 18030. -/
def gb18030Character? (a b : Nat) : Option Char :=
  gbkCharacter? a b <|> CharacterSet.gb18030Additions.cell? a b <|> gb18030Private? a b <|>
    gapCharacter? a b 0xE766 CharacterSet.gbkGaps

/-- The character of the basic plane with a place among those that are written with four bytes;
`found` is the one at the last run's start, if the place is not before it. -/
def runCharacter (place : Nat) (found : Nat) : List (Nat × Nat) → Nat
  | [] => found
  | (start, number) :: runs =>
      if place < start then found else runCharacter place (number + (place - start)) runs

/-- The number of characters on the basic plane that are written with four bytes. -/
def gb18030Basic : Nat := 39420

/-- The place at which the characters beyond the basic plane start. -/
def gb18030Beyond : Nat := 189000

/-- The character of four bytes in GB 18030. -/
def gb18030Four? (a b c d : Nat) : Option Char :=
  if a < 0x81 ∨ 0xFE < a ∨ b < 0x30 ∨ 0x39 < b ∨ c < 0x81 ∨ 0xFE < c ∨ d < 0x30 ∨ 0x39 < d then none
  else
    let place := (((a - 0x81) * 10 + (b - 0x30)) * 126 + (c - 0x81)) * 10 + (d - 0x30)
    if place < gb18030Basic then
      some (Char.ofNat (runCharacter place 0 CharacterSet.gb18030Runs))
    else if gb18030Beyond ≤ place ∧ place < gb18030Beyond + 0x100000 then
      some (Char.ofNat (0x10000 + (place - gb18030Beyond)))
    else none

/-- Reads a character of GB 18030. A digit as the second byte announces four bytes. -/
def readGb18030 (a : Nat) (rest : List Nat) : Option Reading :=
  if a < 0x80 then some (.of 0 (Char.ofNat a))
  else
    match rest with
    | [] => none
    | b :: rest =>
        if 0x30 ≤ b ∧ b ≤ 0x39 then
          match rest with
          | c :: d :: _ => (gb18030Four? a b c d).map (.of 3)
          | _ => none
        else (gb18030Character? a b).map (.of 1)

/-- Reads a character of HZ, or one of its marks, which start with a tilde; the state says whether
Chinese is read. -/
def readHz (chinese : Bool) (a : Nat) (rest : List Nat) : Option (Step Bool) :=
  if a = 0x7E then
    match chinese, rest with
    | false, 0x7E :: _ => some ⟨['~'], 1, false⟩
    | false, 0x7B :: _ => some ⟨[], 1, true⟩
    | false, 0x0A :: _ => some ⟨[], 1, false⟩
    | true, 0x7D :: _ => some ⟨[], 1, false⟩
    | _, _ => none
  else if 0x80 ≤ a then none
  else if chinese then
    match rest with
    | [] => none
    | b :: _ => (CharacterSet.gb2312.cell? (a - 0x20) (b - 0x20)).map fun c => ⟨[c], 1, true⟩
  else some ⟨[Char.ofNat a], 0, false⟩

end PhraseStructure.Text.Multibyte
