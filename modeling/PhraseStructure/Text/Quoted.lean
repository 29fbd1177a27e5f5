import PhraseStructure.Text.Half
import PhraseStructure.Text.Printable

/-!
# Quoted text

Messages and listings show text between quotes. The quote is a single one, unless the text holds
single quotes and no double quote. A backslash, the quote itself and the characters that are not
printable are written as escapes. Sequences are shown with their elements between brackets.
-/

namespace PhraseStructure.Text

/-- The lower-case hexadecimal digits of a number, at least `width` of them. -/
def hexDigits (width n : Nat) : List Char :=
  let digits := Nat.toDigits 16 n
  List.replicate (width - digits.length) '0' ++ digits

/-- One character between quotes: as it is, or as an escape. -/
def escape (quote c : Char) : List Char :=
  if c = '\\' || c = quote then ['\\', c]
  else if c = '\n' then ['\\', 'n']
  else if c = '\r' then ['\\', 'r']
  else if c = '\t' then ['\\', 't']
  else if isPrintable c then [c]
  else if codeOf c < 0x100 then '\\' :: 'x' :: hexDigits 2 (codeOf c)
  else if codeOf c < 0x10000 then '\\' :: 'u' :: hexDigits 4 (codeOf c)
  else '\\' :: 'U' :: hexDigits 8 (codeOf c)

/-- The quote for a text: the double one only when that saves escapes. -/
def quoteFor (cs : List Char) : Char :=
  if cs.contains '\'' && !cs.contains '"' then '"' else '\''

/-- Text between quotes. -/
def quotedChars (cs : List Char) : List Char :=
  let quote := quoteFor cs
  quote :: cs.flatMap (escape quote) ++ [quote]

/-- Text between quotes. -/
def quoted (s : String) : String := String.ofList (quotedChars s.toList)

/-- Shown elements, with a comma and a space between every two. -/
def commaSeparated : List String → String
  | [] => ""
  | [x] => x
  | x :: xs => x ++ ", " ++ commaSeparated xs

/-- A list of shown elements. -/
def bracketed (shown : List String) : String := "[" ++ commaSeparated shown ++ "]"

/-- A tuple of shown elements; a comma marks a tuple of one. -/
def parenthesized : List String → String
  | [x] => "(" ++ x ++ ",)"
  | xs => "(" ++ commaSeparated xs ++ ")"

/-- A table of shown keys and what is shown under them. -/
def braced (entries : List (String × String)) : String :=
  "\x7b" ++ commaSeparated (entries.map fun (key, value) => key ++ ": " ++ value) ++ "\x7d"

/-- A tuple of quoted texts. -/
def quotedTuple (texts : List String) : String := parenthesized (texts.map quoted)

/-- A list of quoted texts. -/
def quotedList (texts : List String) : String := bracketed (texts.map quoted)

end PhraseStructure.Text
