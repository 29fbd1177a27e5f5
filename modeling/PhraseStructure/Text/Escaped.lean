import PhraseStructure.Text.CharacterName.Lookup
import PhraseStructure.Text.Half
import PhraseStructure.Text.Utf8

/-!
# Escaped characters

Two encodings write a character by its number behind a backslash; any other byte stands for the
character with its number. In the raw form only the long numbers are escapes. In the other form
there are short numbers, letters for control characters, and names of characters, too.
-/

namespace PhraseStructure.Text.Escaped

/-- The value of a hexadecimal digit. -/
def hexValue? (b : UInt8) : Option Nat :=
  let n := b.toNat
  if 0x30 ≤ n ∧ n ≤ 0x39 then some (n - 0x30)
  else if 0x41 ≤ n ∧ n ≤ 0x46 then some (n - 0x41 + 10)
  else if 0x61 ≤ n ∧ n ≤ 0x66 then some (n - 0x61 + 10)
  else none

/-- The character with a hexadecimal number of `count` digits, read behind `value`, and the bytes
behind them. -/
def readNumber? (value : Nat) : Nat → List UInt8 → Option (Char × List UInt8)
  | 0, rest => if value ≤ 0x10FFFF then some (ofCode value, rest) else none
  | _ + 1, [] => none
  | count + 1, b :: rest => do readNumber? (value * 16 + (← hexValue? b)) count rest

/-- Reading a number leaves no more bytes than there were. -/
theorem length_of_readNumber? {value count : Nat} {bytes rest : List UInt8} {c : Char}
    (h : readNumber? value count bytes = some (c, rest)) : rest.length ≤ bytes.length := by
  induction count generalizing value bytes with
  | zero =>
      simp only [readNumber?, Option.ite_none_right_eq_some, Option.some.injEq,
        Prod.mk.injEq] at h
      simp [h.2.2]
  | succ count ih =>
      cases bytes with
      | nil => simp [readNumber?] at h
      | cons b bytes =>
          obtain ⟨digit, -, h⟩ := Option.bind_eq_some_iff.mp h
          exact Nat.le_succ_of_le (ih h)

/-- The number of an octal digit. -/
def octalValue? (b : UInt8) : Option Nat :=
  if 0x30 ≤ b ∧ b ≤ 0x37 then some (b.toNat - 0x30) else none

/-- The octal number of at most `count` more digits behind `value`, and how many there are. -/
def readOctal (value : Nat) : Nat → List UInt8 → Nat × Nat
  | 0, _ | _, [] => (value, 0)
  | count + 1, b :: rest =>
      match octalValue? b with
      | some digit =>
          let (number, digits) := readOctal (value * 8 + digit) count rest
          (number, digits + 1)
      | none => (value, 0)

/-- The number of digits that a letter announces. -/
def numberLength? : UInt8 → Option Nat
  | 0x78 => some 2
  | 0x75 => some 4
  | 0x55 => some 8
  | _ => none

/-- The number of digits that a letter announces in the raw form. -/
def rawNumberLength? (b : UInt8) : Option Nat := if b = 0x78 then none else numberLength? b

/-- What a byte behind a backslash stands for: a letter names a control character, a quotation mark
or a backslash is itself, and the end of a line is left out. -/
def named? : UInt8 → Option (List Char)
  | 0x0A => some []
  | 0x5C => some ['\\']
  | 0x27 => some ['\'']
  | 0x22 => some ['"']
  | 0x62 => some ['\x08']
  | 0x66 => some ['\x0c']
  | 0x74 => some ['\t']
  | 0x6E => some ['\n']
  | 0x72 => some ['\r']
  | 0x76 => some ['\x0b']
  | 0x61 => some ['\x07']
  | _ => none

/-- The character whose name stands between braces at the front, and the number of bytes up to the
closing brace. -/
def readName? (bytes : List UInt8) : Option (List Char × Nat) := do
  let name := (bytes.drop 1).takeWhile (· ≠ 0x7D)
  if bytes.head? ≠ some 0x7B ∨ bytes.length < name.length + 2 then failure
  let code ← CharacterName.codePoint? (String.ofList (name.map fun b => Char.ofNat b.toNat))
  return ([Char.ofNat code], name.length + 2)

/-- The characters of a byte behind a backslash that begins no number, and the number of bytes
behind it that belong to them. -/
def readShort? (raw : Bool) (b : UInt8) (rest : List UInt8) : Option (List Char × Nat) :=
  let plain := ['\\', Char.ofNat b.toNat]
  if raw then some (plain, 0)
  else
    match named? b, octalValue? b with
    | some characters, _ => some (characters, 0)
    | none, some digit =>
        let (number, digits) := readOctal digit 2 rest
        some ([Char.ofNat number], digits)
    | none, none => if b = 0x4E then readName? rest else some (plain, 0)

/-- Decodes bytes from a place on; `decoded` holds the characters before it, in reverse. A backslash
at the end is itself in the raw form, and cannot be read in the other one. -/
def decodeFrom (raw : Bool) (place : Nat) (decoded : List Char) (bytes : List UInt8) :
    Except DecodingFault (List Char) :=
  let fault (b : UInt8) : Except DecodingFault (List Char) :=
    .error ⟨if raw then "rawunicodeescape" else "unicodeescape", b, place, 1, .illegalSequence⟩
  match bytes with
  | [] => .ok decoded.reverse
  | [b] => if b = 0x5C ∧ !raw then fault b else .ok (Char.ofNat b.toNat :: decoded).reverse
  | b :: c :: rest =>
      if b = 0x5C then
        match (if raw then rawNumberLength? c else numberLength? c) with
        | some count =>
            match h : readNumber? 0 count rest with
            | some (character, rest') =>
                decodeFrom raw (place + 2 + count) (character :: decoded) rest'
            | none => fault b
        | none =>
            match readShort? raw c rest with
            | some (characters, further) =>
                decodeFrom raw (place + 2 + further) (characters.reverse ++ decoded)
                  (rest.drop further)
            | none => fault b
      else decodeFrom raw (place + 1) (Char.ofNat b.toNat :: decoded) (c :: rest)
termination_by bytes.length
decreasing_by
  · have := length_of_readNumber? h
    simp only [List.length_cons]
    omega
  · simp only [List.length_drop, List.length_cons]
    omega
  · simp

/-- The text of bytes with escaped characters. -/
def decode (raw : Bool) (bytes : List UInt8) : Except DecodingFault (List Char) :=
  decodeFrom raw 0 [] bytes

end PhraseStructure.Text.Escaped
