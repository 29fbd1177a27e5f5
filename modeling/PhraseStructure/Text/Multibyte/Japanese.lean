import PhraseStructure.Text.CharacterSet.JapaneseBasic
import PhraseStructure.Text.CharacterSet.JapaneseExtended
import PhraseStructure.Text.CharacterSet.JapaneseSupplement
import PhraseStructure.Text.CharacterSet.JapaneseVendor
import PhraseStructure.Text.Multibyte.Basic

/-!
# Japanese in bytes

The Japanese sets are written in pairs of bytes of the upper half, or in the arrangement of Shift
JIS, which puts two rows side by side and leaves room for the half-width syllables.
-/

namespace PhraseStructure.Text

/-- The editions of JIS X 0213; the later one has ten more characters. -/
inductive JisEdition
  | first
  | revised
  deriving DecidableEq, Repr

namespace Multibyte

/-- The cells of the first plane of JIS X 0213 that are free in its first edition. -/
def addedInRevision : List (Nat × Nat) :=
  [(14, 1), (15, 94), (47, 52), (47, 94), (84, 7), (94, 90), (94, 91), (94, 92), (94, 93), (94, 94)]

/-- The characters in a cell of the first plane of JIS X 0213, which includes JIS X 0208. -/
def firstPlane? (edition : JisEdition) (row cell : Nat) : Option (List Char) :=
  if edition = .first ∧ addedInRevision.contains (row, cell) then none
  else
    ((CharacterSet.jisX0208.cell? row cell <|> CharacterSet.jisX0213First.cell? row cell).map
      fun c => [c]) <|> Run.inCell? CharacterSet.jisX0213Pairs row cell

/-- The character in a cell of the second plane of JIS X 0213. One has another form in the first
edition. -/
def secondPlane? (edition : JisEdition) (row cell : Nat) : Option Char :=
  if edition = .first ∧ row = 93 ∧ cell = 27 then some '\u9B1D'
  else
    CharacterSet.jisX0213Second.cell? row cell <|> CharacterSet.jisX0213SecondEnd.cell? row cell

/-- The half-width syllable or sign of a byte. -/
def halfWidth? (b : Nat) : Option Char :=
  if 0xA1 ≤ b ∧ b ≤ 0xDF then some (Char.ofNat (0xFF61 + (b - 0xA1))) else none

/-- Reads a character where bytes of the upper half are used. A half-width syllable and a character
of another set stand behind bytes that announce them. -/
def readEuc (pair : Nat → Nat → Option (List Char)) (other : Nat → Nat → Option Char) (a : Nat)
    (rest : List Nat) : Option Reading :=
  match a, rest with
  | 0x8E, b :: _ => (halfWidth? b).map (.of 1)
  | 0x8F, b :: c :: _ => (other b c).map (.of 2)
  | 0x8F, _ => none
  | _, _ => readPairs pair a rest

/-- Reads a character of EUC-JP. -/
def readEucJp : Nat → List Nat → Option Reading :=
  readEuc (fun a b => (inUpperHalf .jisX0208 a b).map fun c => [c]) (inUpperHalf .jisX0212)

/-- Reads a character of EUC with JIS X 0213. -/
def readEucJis (edition : JisEdition) : Nat → List Nat → Option Reading :=
  readEuc (fun a b => firstPlane? edition (a - 0xA0) (b - 0xA0)) fun a b =>
    secondPlane? edition (a - 0xA0) (b - 0xA0) <|> inUpperHalf .jisX0212 a b

/-- The row and the cell of a pair in the arrangement of Shift JIS. -/
def shiftJisPlace? (a b : Nat) : Option (Nat × Nat) :=
  if b < 0x40 ∨ b = 0x7F ∨ 0xFC < b then none
  else
    let cell := if b < 0x7F then b - 0x40 else b - 0x41
    let place (pairOfRows : Nat) :=
      if cell < 94 then (2 * pairOfRows + 1, cell + 1) else (2 * pairOfRows + 2, cell - 93)
    if 0x81 ≤ a ∧ a ≤ 0x9F then some (place (a - 0x81))
    else if 0xE0 ≤ a ∧ a ≤ 0xFC then some (place (a - 0xC1))
    else none

/-- Reads a character of Shift JIS, where `single` says what a single byte stands for. -/
def readShiftJis (single : Nat → Option Char) (cell : Nat → Nat → Option (List Char)) (a : Nat)
    (rest : List Nat) : Option Reading :=
  match single a with
  | some c => some (.of 0 c)
  | none =>
      match rest with
      | [] => none
      | b :: _ => do
          let (row, place) ← shiftJisPlace? a b
          return ⟨← cell row place, 1, ()⟩

/-- What a byte stands for in Shift JIS on its own. -/
def shiftJisSingle? (b : Nat) : Option Char :=
  if b < 0x80 then some (Char.ofNat b) else halfWidth? b

/-- The characters in a cell for Shift JIS. -/
def shiftJisCell? (row cell : Nat) : Option (List Char) :=
  (CharacterSet.jisX0208.cell? row cell).map fun c => [c]

/-- What a byte stands for in code page 932 on its own. -/
def cp932Single? (b : Nat) : Option Char :=
  if b ≤ 0x80 then some (Char.ofNat b)
  else if b = 0xA0 then some '\uF8F0'
  else if 0xFD ≤ b then some (Char.ofNat (0xF8F1 + (b - 0xFD)))
  else halfWidth? b

/-- The characters in a cell for code page 932. Rows behind the standard are for private use. -/
def cp932Cell? (row cell : Nat) : Option (List Char) :=
  let own := if 95 ≤ row ∧ row ≤ 114 then
      some (Char.ofNat (0xE000 + 94 * (row - 95) + (cell - 1)))
    else none
  (CharacterSet.cp932Additions.cell? row cell <|> own <|>
    CharacterSet.jisX0208.cell? row cell).map fun c => [c]

/-- What a byte stands for on its own in Shift JIS with JIS X 0213: the yen sign takes the place of
the backslash, and the overline that of the tilde. -/
def shiftJis2004Single? (b : Nat) : Option Char :=
  if b = 0x5C then some '\u00A5' else if b = 0x7E then some '\u203E' else shiftJisSingle? b

/-- The rows of the second plane that Shift JIS has behind the first plane. -/
def secondPlaneRows : List Nat :=
  [1, 8, 3, 4, 5, 12, 13, 14, 15, 78, 79, 80, 81, 82, 83, 84, 85, 86, 87, 88, 89, 90, 91, 92, 93,
    94]

/-- The characters in a cell for Shift JIS with JIS X 0213. The full-width forms of the signs that
bytes do not stand for are the signs themselves. -/
def shiftJis2004Cell? (edition : JisEdition) (row cell : Nat) : Option (List Char) :=
  if row = 1 ∧ cell = 32 then some ['\\']
  else if row = 2 ∧ cell = 18 then some ['~']
  else if row ≤ 94 then firstPlane? edition row cell
  else do
    let c ← secondPlane? edition (← secondPlaneRows[row - 95]?) cell
    return [c]

end Multibyte

end PhraseStructure.Text
