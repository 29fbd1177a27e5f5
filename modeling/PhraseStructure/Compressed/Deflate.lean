import PhraseStructure.Compressed.PrefixCode

/-!
# Deflated data

Deflated data are blocks of bits. A block is stored as it is, or it is a sequence of words of a
prefix code: single bytes, and copies of bytes that came before. The codes are fixed ones, or the
block starts with the lengths of their words.
-/

namespace PhraseStructure.Compressed

/-- The bits of bytes; within a byte the lowest bit comes first. -/
def bitsOf (bytes : List UInt8) : List Bool :=
  bytes.flatMap fun b => (List.range 8).map fun i => b.toNat.testBit i

/-- The number in the next bits, the lowest bit first, and the bits behind it. -/
def takeNumber? : Nat → List Bool → Option (Nat × List Bool)
  | 0, bits => some (0, bits)
  | _ + 1, [] => none
  | count + 1, bit :: bits => do
      let (high, rest) ← takeNumber? count bits
      return (2 * high + bit.toNat, rest)

namespace Deflate

/-- A range of numbers: its lowest one, and how many further bits select one in it. -/
structure Span where
  lowest : Nat
  extra : Nat
  deriving DecidableEq, Repr

/-- Spans that adjoin each other from a number on, given by their numbers of further bits. -/
def spansFrom (lowest : Nat) : List Nat → List Span
  | [] => []
  | extra :: extras => ⟨lowest, extra⟩ :: spansFrom (lowest + Nat.pow 2 extra) extras

/-- The lengths of copies; the longest has a symbol of its own. -/
def copyLengths : List Span :=
  spansFrom 3 [0, 0, 0, 0, 0, 0, 0, 0, 1, 1, 1, 1, 2, 2, 2, 2, 3, 3, 3, 3, 4, 4, 4, 4, 5, 5, 5, 5]
    ++ [⟨258, 0⟩]

/-- How far back the bytes of a copy start. -/
def copyDistances : List Span :=
  spansFrom 1 [0, 0, 0, 0, 1, 1, 2, 2, 3, 3, 4, 4, 5, 5, 6, 6, 7, 7, 8, 8, 9, 9, 10, 10, 11, 11,
    12, 12, 13, 13]

/-- The number in a span that the next bits select. -/
def Span.read? (s : Span) (bits : List Bool) : Option (Nat × List Bool) := do
  let (offset, rest) ← takeNumber? s.extra bits
  return (s.lowest + offset, rest)

/-- The symbol that ends a block. The symbols below it are bytes, and those above it lengths of
copies. -/
def endOfBlock : Nat := 256

/-- The codes of a block. -/
structure Codes where
  /-- Bytes, lengths of copies and the end of the block. -/
  contents : PrefixCode
  distances : PrefixCode

/-- The codes of a block that does not describe its own. -/
def Codes.fixed : Codes where
  contents := .ofLengths (List.replicate 144 8 ++ List.replicate 112 9 ++ List.replicate 24 7 ++
    List.replicate 8 8)
  distances := .ofLengths (List.replicate 30 5)

/-- Appends bytes, each of which equals the one at a distance before it. -/
def copy (distance : Nat) (out : Array UInt8) : Nat → Option (Array UInt8)
  | 0 => some out
  | count + 1 =>
      if distance ≤ out.size then do
        copy distance (out.push (← out[out.size - distance]?)) count
      else none

/-- Appends the contents of a block; `fuel` bounds the number of its symbols. -/
def contentsFrom (codes : Codes) : (fuel : Nat) → (out : Array UInt8) → (bits : List Bool) →
    Option (Array UInt8 × List Bool)
  | 0, _, _ => none
  | fuel + 1, out, bits => do
      let (symbol, bits) ← codes.contents.read? bits
      if symbol = endOfBlock then return (out, bits)
      else if symbol < endOfBlock then contentsFrom codes fuel (out.push symbol.toUInt8) bits
      else
        let (length, bits) ← (← copyLengths[symbol - endOfBlock - 1]?).read? bits
        let (span, bits) ← codes.distances.read? bits
        let (distance, bits) ← (← copyDistances[span]?).read? bits
        contentsFrom codes fuel (← copy distance out length) bits

/-- Appends the bytes of a stored block, which starts with their number, twice. -/
def stored (out : Array UInt8) (bits : List Bool) : Option (Array UInt8 × List Bool) := do
  let (count, bits) ← takeNumber? 16 (bits.drop (bits.length % 8))
  let (complement, bits) ← takeNumber? 16 bits
  if count + complement = 65535 then bytesFrom out bits count else none
where
  bytesFrom (out : Array UInt8) (bits : List Bool) : Nat → Option (Array UInt8 × List Bool)
    | 0 => some (out, bits)
    | count + 1 => do
        let (byte, bits) ← takeNumber? 8 bits
        bytesFrom (out.push byte.toUInt8) bits count

/-- The lengths of words that a code for lengths describes, up to a total number. `lengths` are
those read so far, in reverse. Symbols above the longest length repeat the one before, or zeros. -/
def lengthsFrom (code : PrefixCode) (total : Nat) : (fuel : Nat) → (lengths : List Nat) →
    (bits : List Bool) → Option (List Nat × List Bool)
  | fuel, lengths, bits =>
      if total ≤ lengths.length then some (lengths.reverse, bits)
      else
        match fuel with
        | 0 => none
        | fuel + 1 => do
            let (symbol, bits) ← code.read? bits
            if symbol ≤ PrefixCode.longest then
              lengthsFrom code total fuel (symbol :: lengths) bits
            else
              let (count, bits) ← (repetitions symbol).read? bits
              let length ← if symbol = 16 then lengths.head? else some 0
              lengthsFrom code total fuel (List.replicate count length ++ lengths) bits
where
  repetitions (symbol : Nat) : Span :=
    if symbol = 16 then ⟨3, 2⟩ else if symbol = 17 then ⟨3, 3⟩ else ⟨11, 7⟩

/-- The symbols of the code for lengths in the order in which their own lengths are given. -/
def lengthOrder : List Nat := [16, 17, 18, 0, 8, 7, 9, 6, 10, 5, 11, 4, 12, 3, 13, 2, 14, 1, 15]

/-- Numbers of three bits. -/
def takeThrees? : Nat → List Bool → Option (List Nat × List Bool)
  | 0, bits => some ([], bits)
  | count + 1, bits => do
      let (length, bits) ← takeNumber? 3 bits
      let (lengths, bits) ← takeThrees? count bits
      return (length :: lengths, bits)

/-- The codes that a block describes. -/
def readCodes? (bits : List Bool) : Option (Codes × List Bool) := do
  let (contents, bits) ← Span.read? ⟨257, 5⟩ bits
  let (distances, bits) ← Span.read? ⟨1, 5⟩ bits
  let (count, bits) ← Span.read? ⟨4, 4⟩ bits
  let (given, bits) ← takeThrees? count bits
  let lengths := (List.range 19).map fun symbol =>
    ((lengthOrder.zip given).lookup symbol).getD 0
  let total := contents + distances
  let (lengths, bits) ← lengthsFrom (.ofLengths lengths) total total [] bits
  return (⟨.ofLengths (lengths.take contents), .ofLengths ((lengths.take total).drop contents)⟩,
    bits)

/-- Appends the contents of blocks up to the one that is marked as the last; `fuel` bounds their
number. -/
def blocksFrom : (fuel : Nat) → (out : Array UInt8) → (bits : List Bool) →
    Option (Array UInt8 × List Bool)
  | 0, _, _ => none
  | fuel + 1, out, bits => do
      let (last, bits) ← takeNumber? 1 bits
      let (kind, bits) ← takeNumber? 2 bits
      let (out, bits) ←
        match kind with
        | 0 => stored out bits
        | 1 => contentsFrom .fixed bits.length out bits
        | 2 => do
            let (codes, bits) ← readCodes? bits
            contentsFrom codes bits.length out bits
        | _ => none
      if last = 1 then return (out, bits) else blocksFrom fuel out bits

/-- The bytes that were deflated, and the number of bytes behind the data. -/
def inflate? (bytes : List UInt8) : Option (Array UInt8 × Nat) := do
  let bits := bitsOf bytes
  let (out, rest) ← blocksFrom bits.length #[] bits
  return (out, rest.length / 8)

end Deflate

end PhraseStructure.Compressed
