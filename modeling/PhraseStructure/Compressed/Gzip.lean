import PhraseStructure.Compressed.Deflate

/-!
# Compressed files

A compressed file is a sequence of members. A member is a header, deflated data, the checksum of the
data and their size. Zero bytes may follow a member.
-/

namespace PhraseStructure.Compressed

/-- One bit's step of the cyclic redundancy check. -/
def redundancyStep (sum : UInt32) : UInt32 :=
  if sum &&& 1 = 1 then (sum >>> 1) ^^^ 0xEDB88320 else sum >>> 1

/-- The cyclic redundancy check of bytes. -/
def redundancy (bytes : Array UInt8) : UInt32 :=
  bytes.foldl (fun sum b => Nat.repeat redundancyStep 8 (sum ^^^ b.toUInt32)) 0xFFFFFFFF
    ^^^ 0xFFFFFFFF

namespace Gzip

/-- The number in the next four bytes, the lowest byte first, and the bytes behind it. -/
def takeWord? : List UInt8 → Option (UInt32 × List UInt8)
  | a :: b :: c :: d :: rest =>
      some (a.toUInt32 + b.toUInt32 * 0x100 + c.toUInt32 * 0x10000 + d.toUInt32 * 0x1000000, rest)
  | _ => none

/-- The bytes behind a text that a zero ends. -/
def dropText (bytes : List UInt8) : List UInt8 := (bytes.dropWhile (· ≠ 0)).tail

/-- The bytes behind the header of a member. Its flags tell which optional parts it has. -/
def dropHeader? : List UInt8 → Option (List UInt8)
  | 0x1F :: 0x8B :: 8 :: flags :: _ :: _ :: _ :: _ :: _ :: _ :: rest => do
      let has (bit : Nat) : Bool := flags.toNat.testBit bit
      let rest ←
        if has 2 then
          match rest with
          | low :: high :: rest => some (rest.drop (low.toNat + 0x100 * high.toNat))
          | _ => none
        else some rest
      let rest := if has 3 then dropText rest else rest
      let rest := if has 4 then dropText rest else rest
      return if has 1 then rest.drop 2 else rest
  | _ => none

/-- The data of a member, and the bytes behind it. -/
def member? (bytes : List UInt8) : Option (List UInt8 × List UInt8) := do
  let body ← dropHeader? bytes
  let (data, left) ← Deflate.inflate? body
  let (sum, rest) ← takeWord? (body.drop (body.length - left))
  let (size, rest) ← takeWord? rest
  if sum = redundancy data ∧ size = data.size.toUInt32 then return (data.toList, rest) else none

/-- The data of members, between which zero bytes may stand; `fuel` bounds their number. -/
def membersFrom : (fuel : Nat) → List UInt8 → Option (List UInt8)
  | 0, _ => none
  | fuel + 1, bytes => do
      let (data, rest) ← member? bytes
      match rest.dropWhile (· = 0) with
      | [] => return data
      | rest => return data ++ (← membersFrom fuel rest)

/-- The content of a compressed file. An empty file has none. -/
def decompress? (bytes : List UInt8) : Option (List UInt8) :=
  if bytes.isEmpty then some [] else membersFrom bytes.length bytes

end Gzip

end PhraseStructure.Compressed
