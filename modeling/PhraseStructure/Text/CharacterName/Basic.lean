import PhraseStructure.Text.Cut

/-!
# Tables of names

A character has a name of several words in capital letters. A table holds the names of characters
in order. Its entries stand between commas: that of a character tells by a digit how many words its
name shares with the one before it, and has the other words behind that. A common word is written as
a small letter. An entry that begins with `@` has the code point of the next character.
-/

namespace PhraseStructure.Text.CharacterName

/-- The words that small letters stand for, from `a` on. -/
def commonWords : List String := [
  "ABOVE", "AND", "ARROW", "BELOW", "BLACK", "CAPITAL", "DOUBLE", "FINAL", "FORM", "INITIAL",
  "ISOLATED", "LEFT", "LEFTWARDS", "LETTER", "MARK", "RIGHT", "RIGHTWARDS", "SIGN", "SMALL",
  "STROKE", "SYMBOL", "THREE", "TRIANGLE-HEADED", "VERTICAL", "WHITE", "WITH"]

/-- The word that a small letter stands for. -/
def commonWord? (c : Char) : Option String :=
  if 'a' ≤ c then commonWords[c.toNat - 'a'.toNat]? else none

/-- A word in front of other ones, unless it is empty. -/
def consWord (word : List Char) (words : List String) : List String :=
  if word.isEmpty then words else String.ofList word :: words

/-- The words that an entry writes behind `word`, a word that may go on. -/
def wordsFrom (word : List Char) : List Char → List String
  | [] => consWord word []
  | c :: cs =>
      if c = ' ' then consWord word (wordsFrom [] cs)
      else
        match commonWord? c with
        | some common => consWord word (common :: wordsFrom [] cs)
        | none => wordsFrom (word ++ [c]) cs

/-- The value of a hexadecimal digit. -/
def hexValue? (c : Char) : Option Nat :=
  if '0' ≤ c ∧ c ≤ '9' then some (c.toNat - '0'.toNat)
  else if 'A' ≤ c ∧ c ≤ 'F' then some (c.toNat - 'A'.toNat + 10)
  else none

/-- The number that hexadecimal digits make up. -/
def readHex? (digits : List Char) : Option Nat :=
  digits.foldlM (fun n c => (hexValue? c).map (n * 16 + ·)) 0

/-- The code point with a name among entries, the first of which is that of `code`; the name before
it has the words `before`. -/
def findFrom? (name before : List String) (code : Nat) : List (List Char) → Option Nat
  | [] => none
  | ('@' :: digits) :: entries => findFrom? name before ((readHex? digits).getD code) entries
  | (shared :: written) :: entries =>
      let words := before.take (shared.toNat - '0'.toNat) ++ wordsFrom [] written
      if words = name then some code else findFrom? name words (code + 1) entries
  | [] :: entries => findFrom? name before code entries

/-- The entries of a line. -/
def entriesOf (line : String) : List (List Char) := splitAtCommas line.toList

/-- The code point with a name in a table. -/
def find? (name : List String) (table : List String) : Option Nat :=
  findFrom? name [] 0 (table.flatMap entriesOf)

end PhraseStructure.Text.CharacterName
