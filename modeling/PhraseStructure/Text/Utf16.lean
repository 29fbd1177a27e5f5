import PhraseStructure.Text.Utf8

/-!
# Encodings with units of several bytes

A character is written as units of two bytes, or as a unit of four bytes. The order of the bytes of
a unit is agreed upon, or a mark in front of the text tells it.
-/

namespace PhraseStructure.Text

/-- The order of the bytes of a unit. -/
inductive ByteOrder
  /-- The last digits come first. -/
  | little
  | big
  deriving DecidableEq, Repr

namespace ByteOrder

/-- The value of the bytes of a unit. -/
def value (order : ByteOrder) (bytes : List UInt8) : Nat :=
  let digits :=
    match order with
    | little => bytes.reverse
    | big => bytes
  digits.foldl (fun n b => n * 0x100 + b.toNat) 0

/-- The name of the order in the names of encodings. -/
def suffix : ByteOrder → String
  | little => "-le"
  | big => "-be"

end ByteOrder

/-- Whether a unit is the first of two that make up a character. -/
def isHighSurrogate (unit : Nat) : Bool := 0xD800 ≤ unit && unit < 0xDC00

/-- Whether a unit is the second of two that make up a character. -/
def isLowSurrogate (unit : Nat) : Bool := 0xDC00 ≤ unit && unit < 0xE000

/-- Decodes units of two bytes from a place on; `decoded` holds the characters before it, in
reverse. -/
def decodeUtf16From (order : ByteOrder) (place : Nat) (decoded : List Char) :
    List UInt8 → Except DecodingFault (List Char)
  | [] => .ok decoded.reverse
  | [a] => .error ⟨"utf-16" ++ order.suffix, a, place, 1, .truncated⟩
  | a :: b :: rest =>
      let unit := order.value [a, b]
      if isLowSurrogate unit then .error ⟨"utf-16" ++ order.suffix, a, place, 2, .illegal⟩
      else if isHighSurrogate unit then
        match rest with
        | c :: d :: rest =>
            let second := order.value [c, d]
            if isLowSurrogate second then
              decodeUtf16From order (place + 4)
                (Char.ofNat (0x10000 + (unit - 0xD800) * 0x400 + (second - 0xDC00)) :: decoded)
                rest
            else .error ⟨"utf-16" ++ order.suffix, a, place, 2, .illegal⟩
        | _ => .error ⟨"utf-16" ++ order.suffix, a, place, 2 + rest.length, .endOfData⟩
      else decodeUtf16From order (place + 2) (Char.ofNat unit :: decoded) rest

/-- Decodes units of four bytes from a place on; `decoded` holds the characters before it, in
reverse. -/
def decodeUtf32From (order : ByteOrder) (place : Nat) (decoded : List Char) :
    List UInt8 → Except DecodingFault (List Char)
  | [] => .ok decoded.reverse
  | a :: b :: c :: d :: rest =>
      let unit := order.value [a, b, c, d]
      if unit.isValidChar then
        decodeUtf32From order (place + 4) (Char.ofNat unit :: decoded) rest
      else .error ⟨"utf-32" ++ order.suffix, a, place, 4, .illegal⟩
  | a :: rest => .error ⟨"utf-32" ++ order.suffix, a, place, rest.length + 1, .truncated⟩

/-- The character that is written in front of a text as a mark of the order of bytes. -/
def orderMark : Nat := 0xFEFF

/-- The order of bytes that the mark in front tells, a mark being a unit of `size` bytes. -/
def markedOrder? (size : Nat) (bytes : List UInt8) : Option ByteOrder :=
  let mark := bytes.take size
  if mark.length < size then none
  else if ByteOrder.little.value mark = orderMark then some .little
  else if ByteOrder.big.value mark = orderMark then some .big
  else none

/-- Decodes a text behind a mark. Text without a mark is decoded in vain: whatever is wrong about it
is reported before that the mark is not there. -/
def decodeMarked (name : String) (size : Nat)
    (decode : ByteOrder → Nat → List UInt8 → Except DecodingFault (List Char))
    (bytes : List UInt8) : Except DecodingFault (List Char) :=
  match markedOrder? size bytes with
  | some order => decode order size (bytes.drop size)
  | none => do
      match ← decode .little 0 bytes with
      | [] => return []
      | _ => throw ⟨name, bytes.headD 0, 0, size, .noMark⟩

/-- The text of units of two bytes in a given order, or behind a mark. -/
def decodeUtf16 (order : Option ByteOrder) (bytes : List UInt8) :
    Except DecodingFault (List Char) :=
  match order with
  | some order => decodeUtf16From order 0 [] bytes
  | none => decodeMarked "UTF-16" 2 (fun order place => decodeUtf16From order place []) bytes

/-- The text of units of four bytes in a given order, or behind a mark. -/
def decodeUtf32 (order : Option ByteOrder) (bytes : List UInt8) :
    Except DecodingFault (List Char) :=
  match order with
  | some order => decodeUtf32From order 0 [] bytes
  | none => decodeMarked "UTF-32" 4 (fun order place => decodeUtf32From order place []) bytes

end PhraseStructure.Text
