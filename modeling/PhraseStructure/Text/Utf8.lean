/-!
# Decoding bytes

Text is stored in files as UTF-8; a file may also be declared to hold one byte per character. A
sequence of bytes that encodes no text is reported with its place and the reason. Bytes may also
arrive in blocks: a character cut off at the end of a block is completed by the next one.
-/

namespace PhraseStructure.Text

/-- Why bytes cannot be decoded. -/
inductive DecodingReason
  /-- No character is encoded by bytes that start with this one. -/
  | startByte
  /-- The bytes that continue a character are not there. -/
  | continuationByte
  /-- The bytes end inside a character. -/
  | endOfData
  /-- The byte is outside the basic block, which is all that may be used. -/
  | outsideBasicBlock
  /-- The code page has no character for the byte. -/
  | noCharacter
  /-- The bytes end inside a unit of several bytes. -/
  | truncated
  /-- A unit stands for no character in its place. -/
  | illegal
  /-- Bytes stand for no character together. -/
  | illegalSequence
  /-- There is no mark that tells the order of the bytes. -/
  | noMark
  /-- A character cannot be inserted where it should be. -/
  | badInsertion
  /-- No text is written in the encoding. -/
  | noText
  deriving DecidableEq, Repr

/-- The place and the reason of a failed decoding. -/
structure DecodingFault where
  /-- The name of the encoding. -/
  encoding : String
  /-- The first byte that is at fault. -/
  byte : UInt8
  /-- The place of the first byte at fault. -/
  first : Nat
  /-- The number of bytes at fault. -/
  count : Nat
  reason : DecodingReason
  deriving DecidableEq, Repr

/-- The wording of a reason. -/
def DecodingReason.message : DecodingReason → String
  | startByte => "invalid start byte"
  | continuationByte => "invalid continuation byte"
  | endOfData => "unexpected end of data"
  | outsideBasicBlock => "ordinal not in range(128)"
  | noCharacter => "character maps to <undefined>"
  | truncated => "truncated data"
  | illegal => "illegal encoding"
  | illegalSequence => "illegal multibyte sequence"
  | noMark => "stream does not start with BOM"
  | badInsertion => "invalid insertion"
  | noText => "undefined encoding"

/-- Whether a reason tells what is wrong about some bytes, and not about the whole. -/
def DecodingReason.concernsBytes (r : DecodingReason) : Bool :=
  !([.noMark, .badInsertion, .noText] : List DecodingReason).contains r

/-- The two lower-case hexadecimal digits of a byte. -/
def byteDigits (b : UInt8) : String :=
  let digits := Nat.toDigits 16 b.toNat
  String.ofList (List.replicate (2 - digits.length) '0' ++ digits)

/-- The wording of a failed decoding. -/
def DecodingFault.message (f : DecodingFault) : String :=
  let place :=
    if f.count = 1 then "byte 0x" ++ byteDigits f.byte ++ " in position " ++ toString f.first
    else "bytes in position " ++ toString f.first ++ "-" ++ toString (f.first + f.count - 1)
  if !f.reason.concernsBytes then f.encoding ++ " " ++ f.reason.message
  else "'" ++ f.encoding ++ "' codec can't decode " ++ place ++ ": " ++ f.reason.message

/-- How a run of the decoder over some bytes ends. -/
inductive Ending
  /-- All bytes were used. -/
  | complete
  /-- The bytes end inside a character, which starts at this place with these bytes. -/
  | cutOff (place : Nat) (bytes : List UInt8)
  | failed (fault : DecodingFault)
  deriving DecidableEq, Repr

/-- Whether the byte continues a character. -/
def isContinuation (b : UInt8) : Bool := 0x80 ≤ b && b ≤ 0xBF

/-- Whether the second byte of a character is possible after its first: overlong forms,
surrogates and values above the last code point are excluded here. -/
def isSecond (first second : UInt8) : Bool :=
  isContinuation second &&
    (if first = 0xE0 then 0xA0 ≤ second
     else if first = 0xED then second < 0xA0
     else if first = 0xF0 then 0x90 ≤ second
     else if first = 0xF4 then second < 0x90
     else true)

/-- The bits that a continuation byte contributes. -/
def payload (b : UInt8) : Nat := b.toNat % 0x40

/-- The fault of `count` bytes at a place. -/
def utf8Fault (place : Nat) (byte : UInt8) (count : Nat) (reason : DecodingReason) : Ending :=
  .failed ⟨"utf-8", byte, place, count, reason⟩

/-- Decodes bytes from a place on; `decoded` holds the characters before it, in reverse. -/
def decodeFrom (place : Nat) (decoded : List Char) : List UInt8 → List Char × Ending
  | [] => (decoded.reverse, .complete)
  | b :: rest =>
      if b < 0x80 then decodeFrom (place + 1) (Char.ofNat b.toNat :: decoded) rest
      else if 0xC2 ≤ b && b ≤ 0xDF then
        match rest with
        | [] => (decoded.reverse, .cutOff place [b])
        | b₁ :: rest =>
            if isContinuation b₁ then
              decodeFrom (place + 2)
                (Char.ofNat ((b.toNat - 0xC0) * 0x40 + payload b₁) :: decoded) rest
            else (decoded.reverse, utf8Fault place b 1 .continuationByte)
      else if 0xE0 ≤ b && b ≤ 0xEF then
        match rest with
        | [] => (decoded.reverse, .cutOff place [b])
        | b₁ :: rest =>
            if !isSecond b b₁ then (decoded.reverse, utf8Fault place b 1 .continuationByte)
            else
              match rest with
              | [] => (decoded.reverse, .cutOff place [b, b₁])
              | b₂ :: rest =>
                  if isContinuation b₂ then
                    decodeFrom (place + 3)
                      (Char.ofNat ((b.toNat - 0xE0) * 0x1000 + payload b₁ * 0x40 + payload b₂)
                        :: decoded) rest
                  else (decoded.reverse, utf8Fault place b 2 .continuationByte)
      else if 0xF0 ≤ b && b ≤ 0xF4 then
        match rest with
        | [] => (decoded.reverse, .cutOff place [b])
        | b₁ :: rest =>
            if !isSecond b b₁ then (decoded.reverse, utf8Fault place b 1 .continuationByte)
            else
              match rest with
              | [] => (decoded.reverse, .cutOff place [b, b₁])
              | b₂ :: rest =>
                  if !isContinuation b₂ then
                    (decoded.reverse, utf8Fault place b 2 .continuationByte)
                  else
                    match rest with
                    | [] => (decoded.reverse, .cutOff place [b, b₁, b₂])
                    | b₃ :: rest =>
                        if isContinuation b₃ then
                          decodeFrom (place + 4)
                            (Char.ofNat ((b.toNat - 0xF0) * 0x40000 + payload b₁ * 0x1000 +
                              payload b₂ * 0x40 + payload b₃) :: decoded) rest
                        else (decoded.reverse, utf8Fault place b 3 .continuationByte)
      else (decoded.reverse, utf8Fault place b 1 .startByte)

/-- The fault of bytes that end inside a character. -/
def endFault (place : Nat) (bytes : List UInt8) : DecodingFault :=
  ⟨"utf-8", bytes.headD 0, place, bytes.length, .endOfData⟩

/-- The text that UTF-8 bytes encode. -/
def decodeUtf8 (bytes : List UInt8) : Except DecodingFault (List Char) :=
  match decodeFrom 0 [] bytes with
  | (cs, .complete) => .ok cs
  | (_, .cutOff place rest) => .error (endFault place rest)
  | (_, .failed fault) => .error fault

/-- Decodes block after block. `pending` are the bytes of a character that the block before left
unfinished; places are counted from them. Characters of a block that fails are not delivered. -/
def decodeBlocksFrom (pending : List UInt8) : List (List UInt8) → List Char × Option DecodingFault
  | [] => ([], if pending.isEmpty then none else some (endFault 0 pending))
  | block :: blocks =>
      match decodeFrom 0 [] (pending ++ block) with
      | (cs, .complete) =>
          let (later, fault) := decodeBlocksFrom [] blocks
          (cs ++ later, fault)
      | (cs, .cutOff _ rest) =>
          let (later, fault) := decodeBlocksFrom rest blocks
          (cs ++ later, fault)
      | (_, .failed fault) => ([], some fault)

/-- Divides bytes into blocks of `size + 1`, the last one possibly shorter. -/
def blocks (size : Nat) (bytes : List UInt8) : List (List UInt8) :=
  match bytes with
  | [] => []
  | b :: rest => (b :: rest.take size) :: blocks size (rest.drop size)
termination_by bytes.length
decreasing_by simp only [List.length_cons, List.length_drop]; omega

/-- The text of bytes that are read in blocks of 8192, and the fault that ends it early. -/
def decodeInBlocks (bytes : List UInt8) : List Char × Option DecodingFault :=
  decodeBlocksFrom [] (blocks 8191 bytes)

/-- The text of bytes that are one character each. -/
def decodeLatin1 (bytes : List UInt8) : List Char := bytes.map fun b => Char.ofNat b.toNat

/-- The text of bytes that must lie in the basic block. -/
def decodeAscii (bytes : List UInt8) : Except DecodingFault (List Char) :=
  let basic := bytes.takeWhile (· < 0x80)
  match bytes.drop basic.length with
  | [] => .ok (decodeLatin1 basic)
  | b :: _ => .error ⟨"ascii", b, basic.length, 1, .outsideBasicBlock⟩

end PhraseStructure.Text
