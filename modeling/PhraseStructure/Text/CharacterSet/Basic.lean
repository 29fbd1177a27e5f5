/-!
# Character sets

A character set arranges characters in rows of cells. Encodings of several bytes say how bytes name
a row and a cell.
-/

namespace PhraseStructure.Text

/-- Characters in neighbouring cells of a row. -/
structure Run where
  row : Nat
  /-- The cell of the first character. -/
  first : Nat
  characters : String
  deriving Repr

/-- The runs of a set. -/
structure CharacterSet where
  runs : List Run
  deriving Repr

namespace CharacterSet

/-- What stands in a cell where there is no character. -/
def blank : Char := '\uFFFD'

/-- The set with the given rows, the first of which has a number; their cells are counted from
`cell` on. -/
def ofRowsFrom (row cell : Nat) (rows : List String) : CharacterSet :=
  ⟨rows.zipIdx.map fun (characters, k) => ⟨row + k, cell, characters⟩⟩

/-- The set with the given rows, the first of which has a number. -/
def ofRows (row : Nat) (rows : List String) : CharacterSet := ofRowsFrom row 1 rows

/-- The character in a cell. -/
def cell? (set : CharacterSet) (row cell : Nat) : Option Char :=
  set.runs.findSome? fun run =>
    if run.row = row ∧ run.first ≤ cell then
      (run.characters.toList[cell - run.first]?).filter (· ≠ blank)
    else none

end CharacterSet

/-- What a list of runs has in a single cell, which may be several characters. -/
def Run.inCell? (runs : List Run) (row cell : Nat) : Option (List Char) :=
  (runs.find? fun run => run.row = row ∧ run.first = cell).map fun run => run.characters.toList

end PhraseStructure.Text
