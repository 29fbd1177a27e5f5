import PhraseStructure.Grammar.Basic
import PhraseStructure.OrderedSet

/-!
# Alphabets

The symbols of a grammar in order of appearance. Whether one of them is terminal is decided by the
brackets it is stored with.
-/

namespace PhraseStructure.Grammar

variable (g : Grammar)

/-- All symbols, in order of appearance. -/
def alphabet : OrderedSet Symbol := .ofList (g.pairs.flatMap fun (h, d) => h ++ d)

/-- The terminal symbols. -/
def terminals : OrderedSet Symbol := g.alphabet.filter Symbol.isTerminal

/-- The non-terminal symbols. -/
def nonterminals : OrderedSet Symbol := g.alphabet.filter Symbol.isNonterminal

end PhraseStructure.Grammar
