import PhraseStructure.Grammar.Alphabet
import PhraseStructure.Grammar.Class

/-!
# The contents of a grammar as values

What a grammar holds can be taken out as a value: its productions, its heads, its symbols and its
classes. Such a value can be given as a sequence of rules again; the table of heads and daughters
(`toTable`) and the list of pairs (`toList`) hold the same rules as the grammar.
-/

namespace PhraseStructure.Grammar

/-- Symbols in order, as a value. -/
def side (symbols : List Symbol) : Datum := .tuple (symbols.map .symbol)

/-- A list of productions as a value. -/
def listOf (productions : List Production) : Datum := .list (productions.map .production)

/-- A set of symbols as a value. -/
def setOf (symbols : OrderedSet Symbol) : Datum := .set (symbols.toList.map .symbol)

variable (g : Grammar)

/-- The start symbol as a value. -/
def startDatum : Datum := (g.start.map .symbol).getD .null

/-- The heads as a value. -/
def headList : Datum := .list (g.heads.map side)

/-- The table of the heads, each with the list of its daughters. -/
def toTable : Datum := .table (g.buckets.map fun (h, ds) => (side h, .list (ds.map side)))

/-- The list of all pairs of head and daughters. -/
def toList : Datum := .list (g.pairs.map fun (h, d) => .tuple [side h, side d])

/-- The table of all classes, each with whether the grammar belongs to it. -/
def classTable : Except Fault Datum := do
  return .table ((← g.classify).map fun (c, holds) => (.text c.description, .bool holds))

/-- The conventions of the grammar as a value. -/
def conventionList : Datum :=
  .list [g.conventions.delimiter, g.conventions.brackets, g.conventions.lineSeparator]

end PhraseStructure.Grammar
