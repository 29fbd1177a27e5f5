/-!
# Prefix codes

A prefix code assigns words of bits to symbols so that no word starts another one. A canonical code
is given by the lengths of its words alone: shorter words come first, and words of equal length go
to the symbols in their order.
-/

namespace PhraseStructure.Compressed

/-- A prefix code as a tree: a zero leads to the left, a one to the right. -/
inductive PrefixCode
  | unused
  | leaf (symbol : Nat)
  | fork (zero one : PrefixCode)
  deriving DecidableEq, Repr

namespace PrefixCode

/-- Fills the tree below a node from the left. Each entry is the length of a word and its symbol,
shorter words first; `height` bounds what may be built below the node, and the entries that found no
place are left. -/
def fill (height depth : Nat) : List (Nat × Nat) → PrefixCode × List (Nat × Nat)
  | [] => (.unused, [])
  | (length, symbol) :: rest =>
      if length = depth then (.leaf symbol, rest)
      else
        match height with
        | 0 => (.unused, (length, symbol) :: rest)
        | height + 1 =>
            let (zero, rest) := fill height (depth + 1) ((length, symbol) :: rest)
            let (one, rest) := fill height (depth + 1) rest
            (.fork zero one, rest)

/-- The length of the longest words that are allowed. -/
def longest : Nat := 15

/-- The canonical code in which each symbol has a word of its length in the list; a symbol of length
zero has none. -/
def ofLengths (lengths : List Nat) : PrefixCode :=
  (fill longest 0 ((lengths.zipIdx.filter (·.1 ≠ 0)).mergeSort fun a b => a.1 ≤ b.1)).1

/-- The symbol of the word with which the bits start, and the bits behind it. -/
def read? : PrefixCode → List Bool → Option (Nat × List Bool)
  | .unused, _ => none
  | .leaf symbol, bits => some (symbol, bits)
  | .fork zero _, false :: bits => zero.read? bits
  | .fork _ one, true :: bits => one.read? bits
  | .fork _ _, [] => none

end PrefixCode

end PhraseStructure.Compressed
