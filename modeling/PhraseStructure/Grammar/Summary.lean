import PhraseStructure.Decimal
import PhraseStructure.Grammar.Alphabet
import PhraseStructure.Grammar.Class

/-!
# Grammars in text

A grammar is written as its rules, one after the other, and summed up by the numbers of its
productions and symbols, the lengths of its productions, and its classes.
-/

namespace PhraseStructure.Grammar

variable (g : Grammar)

/-- The rules of the grammar with a delimiter; without one, with its own. -/
def ruleTexts (delimiter : Datum) : Except Fault (List String) := do
  let delimiter :=
    match delimiter with
    | .null => g.conventions.delimiter
    | _ => delimiter
  return (← g.productions).map (·.render delimiter.plain)

/-- The rules with the grammar's line separator between every two. -/
def render (delimiter : Datum) : Except Fault String := do
  match g.conventions.lineSeparator with
  | .text separator => return Text.joinStrings separator (← g.ruleTexts delimiter)
  | _ => throw .noSuchPart

/-- The rules of the grammar in its own writing. -/
def text : Except Fault String := g.render .null

/-- The grammar in a listing. -/
def shown : Except Fault String := do
  return "Grammar(" ++ Text.quotedList (← g.ruleTexts .null) ++ ")"

/-- The lengths that occur, in increasing order, each with how often it occurs. -/
def distribution (lengths : List Nat) : List (Nat × Nat) :=
  ((List.range ((lengths.max?.getD 0) + 1)).map fun n => (n, lengths.count n)).filter
    fun (_, count) => count != 0

/-- Statistics of the productions of a grammar. -/
structure Statistics where
  productions : Nat
  heads : Nat
  start : Option Symbol
  terminals : Nat
  nonterminals : Nat
  /-- The number of daughters of each production. -/
  lengths : List Nat
  classes : List (Class × Bool)

/-- The statistics of the grammar. -/
def statistics : Except Fault Statistics := do
  let lengths := (← g.productions).map fun p => p.daughters.length
  return {
    productions := g.size
    heads := g.buckets.length
    start := g.start
    terminals := g.terminals.size
    nonterminals := g.nonterminals.size
    lengths := lengths
    classes := ← g.classify }

/-- A class and whether the grammar belongs to it. -/
def classLine (c : Class × Bool) : String :=
  c.1.description ++ ": " ++ if c.2 then "yes" else "no"

namespace Statistics

variable (s : Statistics)

/-- The largest number of daughters. -/
def longest : Nat := s.lengths.max?.getD 0

/-- The lines on the numbers of daughters; none if there are no productions. -/
def lengthLines : List String :=
  if s.lengths.isEmpty then []
  else
    ["daughters per production: mean " ++
        Decimal.general 6 (Decimal.total s.lengths) s.lengths.length ++
        ", max " ++ toString s.longest,
      "daughters distribution: " ++ Text.joinStrings ", "
        ((distribution s.lengths).map fun (n, count) => toString n ++ ": " ++ toString count)]

/-- The lines of a summary. -/
def lines : List String :=
  ["productions: " ++ toString s.productions ++ ", heads: " ++ toString s.heads ++
      ", start symbol: " ++ ((s.start.map Symbol.text).getD "None"),
    "terminals: " ++ toString s.terminals ++ ", non-terminals: " ++ toString s.nonterminals] ++
  s.lengthLines ++ s.classes.map classLine

end Statistics

/-- A summary of the size, the shape and the classes of the grammar. -/
def summary : Except Fault String := do
  return Text.joinStrings "\n" (← g.statistics).lines

end PhraseStructure.Grammar
