import PhraseStructure.Text.CodePage.Standard
import PhraseStructure.Text.Multibyte.Japanese
import PhraseStructure.Text.Multibyte.Korean
import PhraseStructure.Text.Multibyte.SimplifiedChinese

/-!
# Switching between character sets

The encodings of ISO 2022 use the bytes of the basic block for several character sets. A sequence
behind an escape character designates a set to one of three places: the first one is read from,
the second one where a shift has taken place, and the third one for single characters.
-/

namespace PhraseStructure.Text.Multibyte

/-- The sets that can be designated. -/
inductive GraphicSet
  | ascii
  | roman
  | katakana
  | jisX0208
  /-- An older edition of JIS X 0208, which is read like the newer one. -/
  | jisX0208First
  | jisX0212
  | jisX0213First (edition : JisEdition)
  | jisX0213Second
  | gb2312
  | ksX1001
  | latin1
  | greek
  deriving DecidableEq, Repr

namespace GraphicSet

/-- Whether the characters of a set are pairs of bytes. -/
def isDouble : GraphicSet → Bool
  | ascii | roman | katakana | latin1 | greek => false
  | _ => true

/-- The letter that designates a set. -/
def letter : GraphicSet → Char
  | ascii => 'B'
  | roman => 'J'
  | katakana => 'I'
  | jisX0208 => 'B'
  | jisX0208First => '@'
  | jisX0212 => 'D'
  | jisX0213First .first => 'O'
  | jisX0213First .revised => 'Q'
  | jisX0213Second => 'P'
  | gb2312 => 'A'
  | ksX1001 => 'C'
  | latin1 => 'A'
  | greek => 'F'

/-- What a byte stands for in a set of single bytes. The sets of the third place are not read from
the first one. -/
def single? (b : Nat) : GraphicSet → Option Char
  | ascii => some (Char.ofNat b)
  | roman => shiftJis2004Single? b
  | katakana => halfWidth? (b + 0x80)
  | _ => none

/-- The characters in a cell of a set of pairs of bytes. The tilde of JIS X 0213 is the one of the
basic block. -/
def cell? (row cell : Nat) : GraphicSet → Option (List Char)
  | jisX0208 | jisX0208First => shiftJisCell? row cell
  | jisX0212 => (CharacterSet.jisX0212.cell? row cell).map fun c => [c]
  | jisX0213First edition =>
      if row = 2 ∧ cell = 18 then some ['~'] else firstPlane? edition row cell
  | jisX0213Second => (secondPlane? .revised row cell).map fun c => [c]
  | gb2312 => (CharacterSet.gb2312.cell? row cell).map fun c => [c]
  | ksX1001 => (CharacterSet.ksX1001.cell? row cell).map fun c => [c]
  | _ => none

/-- Reads a character of a set. -/
def read (set : GraphicSet) (a : Nat) (rest : List Nat) : Option Reading :=
  if set.isDouble then
    match rest with
    | [] => none
    | b :: _ => (set.cell? (a - 0x20) (b - 0x20)).map fun characters => ⟨characters, 1, ()⟩
  else (set.single? a).map (.of 0)

/-- The Greek letters and signs that were added after the set was designated. -/
def laterGreek : List Char := ['€', '₯', 'ͺ']

/-- What a byte stands for in the upper half of a set of the third place. -/
def upper? (b : Nat) : GraphicSet → Option Char
  | ascii => if b < 0x80 then some (Char.ofNat b) else none
  | latin1 => if b < 0x80 then some (Char.ofNat (b + 0x80)) else none
  | greek => do
      let page ← CodePage.standardPages.lookup "iso8859_7"
      match page.decode [(if b < 0x80 then b + 0x80 else b - 0x80).toUInt8] with
      | .ok [c] => if laterGreek.contains c then none else some c
      | _ => none
  | _ => none

end GraphicSet

/-- An encoding that switches between character sets. -/
structure SwitchedCode where
  name : String
  /-- The sets that can be designated beside the basic block. -/
  sets : List GraphicSet
  /-- Whether there are shifts to the second place. -/
  hasShifts : Bool := false
  /-- Whether single characters are read from the third place. -/
  hasSingleShift : Bool := false
  /-- Whether a sequence may announce that the newer edition of JIS X 0208 is meant. -/
  hasAnnouncement : Bool := true

/-- The sets in the three places, and what the bytes read last have begun. -/
structure Switches where
  first : GraphicSet := .ascii
  second : GraphicSet := .ascii
  third : GraphicSet := .ascii
  isShifted : Bool := false
  /-- Whether a sequence that designates nothing is passed on as it is. -/
  isPassing : Bool := false

namespace SwitchedCode

/-- The escape character. -/
def escape : Nat := 0x1B

/-- Whether a byte ends a sequence behind an escape character. -/
def endsSequence (b : Nat) : Bool := 0x40 ≤ b && b ≤ 0x5A

/-- Whether a byte behind an escape character begins a sequence that designates a set. -/
def beginsDesignation (b : Nat) : Bool := [0x28, 0x29, 0x24, 0x2E, 0x26].contains b

/-- The most bytes in a sequence. -/
def longestSequence : Nat := 16

/-- The place of the byte that ends a sequence; an announcement in front of it is skipped, with the
escape character behind. -/
def sequenceEnd? (hasAnnouncement : Bool) (place : Nat) : List Nat → Option Nat
  | [] => none
  | 0x26 :: 0x40 :: b :: rest =>
      if longestSequence ≤ place then none
      else if hasAnnouncement then sequenceEnd? hasAnnouncement (place + 3) rest
      else sequenceEnd? hasAnnouncement (place + 1) (0x40 :: b :: rest)
  | b :: rest =>
      if longestSequence ≤ place then none
      else if endsSequence b then some place
      else sequenceEnd? hasAnnouncement (place + 1) rest

/-- The set that a letter designates. -/
def setOf? (code : SwitchedCode) (isDouble : Bool) (letter : Nat) : Option GraphicSet :=
  (GraphicSet.ascii :: code.sets).find? fun set =>
    set.isDouble = isDouble ∧ set.letter.toNat = letter

/-- The sets in the three places after the bytes of a sequence behind the escape character. -/
def designate? (code : SwitchedCode) (s : Switches) : List Nat → Option Switches
  | [0x24, letter] => (code.setOf? true letter).map fun set => { s with first := set }
  | [0x28, letter] => (code.setOf? false letter).map fun set => { s with first := set }
  | [0x29, letter] => (code.setOf? false letter).map fun set => { s with second := set }
  | [0x2E, letter] =>
      if code.hasSingleShift then
        (code.setOf? false letter).map fun set => { s with third := set }
      else none
  | [0x24, 0x28, letter] => (code.setOf? true letter).map fun set => { s with first := set }
  | [0x24, 0x29, letter] => (code.setOf? true letter).map fun set => { s with second := set }
  | [_, _, 0x1B, 0x24, 0x42] =>
      if code.hasAnnouncement then some { s with first := .jisX0208 } else none
  | _ => none

/-- Reads what is behind an escape character: a designation, a single character of the third place,
or a sequence that is passed on. -/
def readEscape (code : SwitchedCode) (s : Switches) (rest : List Nat) : Option (Step Switches) :=
  match rest with
  | [] => none
  | b :: behind =>
      if beginsDesignation b then do
        let place ← sequenceEnd? code.hasAnnouncement 1 rest
        return ⟨[], place, ← code.designate? s (rest.take place)⟩
      else if code.hasSingleShift && b == 0x4E then
        match behind with
        | [] => none
        | c :: _ => (s.third.upper? c).map fun c => ⟨[c], 2, s⟩
      else some ⟨[Char.ofNat escape], 0, { s with isPassing := true }⟩

/-- Reads a character or a switch. The end of a line undoes a shift. -/
def read (code : SwitchedCode) (s : Switches) (a : Nat) (rest : List Nat) :
    Option (Step Switches) :=
  if s.isPassing then some ⟨[Char.ofNat a], 0, { s with isPassing := !endsSequence a }⟩
  else if a = escape then code.readEscape s rest
  else if a = 0x0F ∧ code.hasShifts then some ⟨[], 0, { s with isShifted := false }⟩
  else if a = 0x0E ∧ code.hasShifts then some ⟨[], 0, { s with isShifted := true }⟩
  else if a = 0x0A then some ⟨['\n'], 0, { s with isShifted := false }⟩
  else if a < 0x20 then some ⟨[Char.ofNat a], 0, s⟩
  else if 0x80 ≤ a then none
  else
    let set := if s.isShifted then s.second else s.first
    (set.read a rest).map fun reading => ⟨reading.characters, reading.further, s⟩

/-- The text of bytes. -/
def decode (code : SwitchedCode) (bytes : List UInt8) : Except DecodingFault (List Char) :=
  decodeSwitching code.name code.read {} bytes

end SwitchedCode

/-- The encodings that switch between character sets, under their names. -/
def switchedCodes : List SwitchedCode := [
  { name := "iso2022_jp", sets := [.roman, .jisX0208, .jisX0208First] },
  { name := "iso2022_jp_1", sets := [.roman, .jisX0208, .jisX0208First, .jisX0212] },
  { name := "iso2022_jp_2"
    sets := [.roman, .jisX0208, .jisX0208First, .jisX0212, .ksX1001, .gb2312, .latin1, .greek]
    hasSingleShift := true },
  { name := "iso2022_jp_3"
    sets := [.jisX0208, .jisX0213First .first, .jisX0213Second] },
  { name := "iso2022_jp_2004"
    sets := [.jisX0208, .jisX0213First .revised, .jisX0213Second] },
  { name := "iso2022_jp_ext"
    sets := [.roman, .katakana, .jisX0208, .jisX0208First, .jisX0212] },
  { name := "iso2022_kr", sets := [.ksX1001], hasShifts := true, hasAnnouncement := false }]

end PhraseStructure.Text.Multibyte
