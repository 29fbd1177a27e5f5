import PhraseStructure.Text.CharacterName.Ancient
import PhraseStructure.Text.CharacterName.Basic
import PhraseStructure.Text.CharacterName.EastAsian
import PhraseStructure.Text.CharacterName.European
import PhraseStructure.Text.CharacterName.Further
import PhraseStructure.Text.CharacterName.Ideographic
import PhraseStructure.Text.CharacterName.Inscriptional
import PhraseStructure.Text.CharacterName.Notation
import PhraseStructure.Text.CharacterName.Pictograph
import PhraseStructure.Text.CharacterName.PresentationForm
import PhraseStructure.Text.CharacterName.Punctuation
import PhraseStructure.Text.CharacterName.Regional
import PhraseStructure.Text.CharacterName.SouthAsian
import PhraseStructure.Text.CharacterName.Syllabary
import PhraseStructure.Text.CharacterName.Technical

/-!
# Characters by name

The name of a Korean syllable spells it, and that of an ideograph ends in its number. All other
names are looked up in tables, where small letters count as capital ones.
-/

namespace PhraseStructure.Text.CharacterName

/-- The tables of names. -/
def tables : List (List String) := [
  europeanNames, southAsianNames, syllabaryNames, punctuationNames, technicalNames, eastAsianNames,
  regionalNames, presentationFormNames, ancientNames, inscriptionalNames, ideographicNames,
  notationNames, pictographNames]

/-- What is left of a text behind its front. -/
def behind? (front : String) (cs : List Char) : Option (List Char) :=
  if front.toList.isPrefixOf cs then some (cs.drop front.length) else none

/-- The consonants in front of a Korean syllable. -/
def leads : List String := [
  "G", "GG", "N", "D", "DD", "R", "M", "B", "BB", "S", "SS", "", "J", "JJ", "C", "K", "T", "P", "H"]

/-- The vowels of a Korean syllable. -/
def vowels : List String := [
  "A", "AE", "YA", "YAE", "EO", "E", "YEO", "YE", "O", "WA", "WAE", "OE", "YO", "U", "WEO", "WE",
  "WI", "YU", "EU", "YI", "I"]

/-- The consonants behind a Korean syllable. -/
def tails : List String := [
  "", "G", "GG", "GS", "N", "NJ", "NH", "D", "L", "LG", "LM", "LB", "LS", "LT", "LP", "LH", "M",
  "B", "BS", "S", "SS", "NG", "J", "C", "K", "T", "P", "H"]

/-- The Korean syllable that is spelled. -/
def syllable? (spelled : List Char) : Option Nat :=
  leads.zipIdx.findSome? fun (lead, i) => do
    let rest ← behind? lead spelled
    vowels.zipIdx.findSome? fun (vowel, j) => do
      let tail ← behind? vowel rest
      let k ← tails.findIdx? (·.toList == tail)
      return 0xAC00 + (i * 21 + j) * 28 + k

/-- The code points of ideographs, as closed ranges. -/
def ideographs : List (Nat × Nat) := [
  (0x3400, 0x4DBF), (0x4E00, 0x9FFF), (0x20000, 0x2A6DF), (0x2A700, 0x2B738), (0x2B740, 0x2B81D),
  (0x2B820, 0x2CEA1), (0x2CEB0, 0x2EBE0), (0x30000, 0x3134A)]

/-- The ideograph with a number of four or five digits. -/
def ideograph? (digits : List Char) : Option Nat := do
  if digits.length ≠ 4 ∧ digits.length ≠ 5 then failure
  let code ← readHex? digits
  if ideographs.any fun (first, last) => first ≤ code && code ≤ last then return code else failure

/-- Names that end in the number of the character, each with a closed range of numbers. -/
def numbered : List (String × Nat × Nat) := [
  ("CJK COMPATIBILITY IDEOGRAPH-", 0xF900, 0xFA6D),
  ("CJK COMPATIBILITY IDEOGRAPH-", 0xFA70, 0xFAD9),
  ("CJK COMPATIBILITY IDEOGRAPH-", 0x2F800, 0x2FA1D),
  ("KHITAN SMALL SCRIPT CHARACTER-", 0x18B00, 0x18CD5), ("NUSHU CHARACTER-", 0x1B170, 0x1B2FB)]

/-- The character whose name ends in its number, without zeros in front. -/
def numbered? (name : List Char) : Option Nat :=
  numbered.findSome? fun (front, first, last) => do
    let digits ← behind? front name
    let code ← readHex? digits
    if first ≤ code ∧ code ≤ last ∧ digits.head? ≠ some '0' then return code else failure

/-- The selector of variants with a number from 1 to 256. -/
def selector? (name : String) : Option Nat :=
  (List.range 256).findSome? fun n =>
    if name = "VS" ++ toString (n + 1) then some (if n < 16 then 0xFE00 + n else 0xE0100 + n - 16)
    else none

/-- The character that tables have under a name. -/
def listed? (name : String) : Option Nat :=
  let words := (splitOn [' '] (by simp) name.toList).map String.ofList
  ((furtherNames.find? (·.2 == name)).map Prod.fst) <|> tables.findSome? (find? words)

/-- The code point of the character with a name. -/
def codePoint? (name : String) : Option Nat :=
  match behind? "HANGUL SYLLABLE " name.toList, behind? "CJK UNIFIED IDEOGRAPH-" name.toList with
  | some spelled, _ => syllable? spelled
  | none, some digits => ideograph? digits
  | none, none =>
      let name := name.toUpper
      numbered? name.toList <|> selector? name <|> listed? name

end PhraseStructure.Text.CharacterName
