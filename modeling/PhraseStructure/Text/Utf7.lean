import PhraseStructure.Text.Half
import PhraseStructure.Text.Utf16

/-!
# UTF-7

Text in the bytes of the basic block. Other characters are written as units of two bytes in groups
of six bits, which stand between a plus and the first byte that is no such group.
-/

namespace PhraseStructure.Text.Utf7

/-- The six bits that a byte stands for. -/
def sextet? (b : UInt8) : Option Nat :=
  let n := b.toNat
  if 0x41 ≤ n ∧ n ≤ 0x5A then some (n - 0x41)
  else if 0x61 ≤ n ∧ n ≤ 0x7A then some (n - 0x61 + 26)
  else if 0x30 ≤ n ∧ n ≤ 0x39 then some (n - 0x30 + 52)
  else if n = 0x2B then some 62
  else if n = 0x2F then some 63
  else none

/-- What is known of a section of units that is being read. -/
structure Section where
  /-- The number of bits that are not used yet. -/
  bits : Nat := 0
  /-- The value of these bits. -/
  buffer : Nat := 0
  /-- The first of two units that make up a character. -/
  pending : Option Nat := none

namespace Section

/-- Whether no unit is begun: the bits that are left over are zero and fewer than a group. -/
def isComplete (s : Section) : Bool := s.bits < 6 && s.buffer == 0

/-- The section with a unit behind it, no character being begun, and the character that is
complete. -/
def first (s : Section) (unit : Nat) : Section × List Char :=
  if isHighSurrogate unit then ({ s with pending := some unit }, [])
  else ({ s with pending := none }, [ofCode unit])

/-- The section with a unit behind it, and the characters that are complete. A first half without a
second one stands alone. -/
def unit (s : Section) (unit : Nat) : Section × List Char :=
  match s.pending with
  | none => s.first unit
  | some high =>
      if isLowSurrogate unit then
        ({ s with pending := none },
          [Char.ofNat (0x10000 + (high - 0xD800) * 0x400 + (unit - 0xDC00))])
      else
        let (s, characters) := s.first unit
        (s, ofCode high :: characters)

/-- The section with six bits behind it, and the characters that are complete. -/
def push (s : Section) (sextet : Nat) : Section × List Char :=
  let buffer := s.buffer * 0x40 + sextet
  let bits := s.bits + 6
  if bits < 16 then ({ s with bits := bits, buffer := buffer }, [])
  else
    let rest := Nat.pow 2 (bits - 16)
    unit { s with bits := bits - 16, buffer := buffer % rest } (buffer / rest)

end Section

/-- The fault of a byte at a place. -/
def fault (place : Nat) (b : UInt8) (reason : DecodingReason) : DecodingFault :=
  ⟨"utf7", b, place, 1, reason⟩

/-- Decodes bytes from a place on, inside a section or outside; `decoded` holds the characters
before it, in reverse. -/
def decodeFrom (place : Nat) (decoded : List Char) :
    Option Section → List UInt8 → Except DecodingFault (List Char)
  | none, [] => .ok decoded.reverse
  | some s, [] =>
      if s.isComplete && s.pending.isNone then .ok decoded.reverse
      else .error (fault place 0 .endOfData)
  | none, b :: rest =>
      if b = 0x2B then
        match rest with
        | [] => .ok decoded.reverse
        | c :: after =>
            if c = 0x2D then decodeFrom (place + 2) ('+' :: decoded) none after
            else if (sextet? c).isNone then .error (fault place b .illegal)
            else decodeFrom (place + 1) decoded (some {}) (c :: after)
      else if b < 0x80 then decodeFrom (place + 1) (Char.ofNat b.toNat :: decoded) none rest
      else .error (fault place b .outsideBasicBlock)
  | some s, b :: rest =>
      match sextet? b with
      | some sextet =>
          let (s, characters) := s.push sextet
          decodeFrom (place + 1) (characters.reverse ++ decoded) (some s) rest
      | none =>
          let decoded := (s.pending.map ofCode).toList ++ decoded
          if !s.isComplete || 0x80 ≤ b then .error (fault place b .illegal)
          else if b = 0x2D then decodeFrom (place + 1) decoded none rest
          else decodeFrom (place + 1) (Char.ofNat b.toNat :: decoded) none rest

/-- The text that bytes encode. -/
def decode (bytes : List UInt8) : Except DecodingFault (List Char) := decodeFrom 0 [] none bytes

end PhraseStructure.Text.Utf7
