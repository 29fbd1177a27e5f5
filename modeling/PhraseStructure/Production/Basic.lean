import PhraseStructure.Symbol
import PhraseStructure.Text.Cut

/-!
# Productions

A production replaces a sequence of head symbols by a sequence of daughters. There is at least
one head symbol. Productions are the same when their symbols are, in order. A production is written
as its head symbols, a delimiter and its daughters, with commas between the symbols of a side.
-/

namespace PhraseStructure

/-- A rule of a grammar. -/
structure Production where
  /-- The symbols that are replaced. -/
  head : List Symbol
  /-- The symbols they are replaced by. -/
  daughters : List Symbol
  head_ne_nil : head ≠ []

namespace Production

/-- Productions are compared symbol by symbol. -/
instance : BEq Production := ⟨fun p q => p.head == q.head && p.daughters == q.daughters⟩

/-- Productions are equal if their heads are and their daughters are, under whatever brackets. -/
theorem beq_iff {p q : Production} :
    (p == q) = true ↔ (p.head == q.head) = true ∧ (p.daughters == q.daughters) = true := by
  change (p.head == q.head && p.daughters == q.daughters) = true ↔ _
  simp

/-- The brackets of the first head symbol, which stand for those of the production. -/
def brackets (p : Production) : Brackets := (p.head.head p.head_ne_nil).brackets

/-- The same symbol with other brackets. -/
def rebracketed (s : Symbol) (b : Brackets) : Symbol := ⟨s.text, b⟩

/-- The head symbols followed by the daughters. -/
def symbols (p : Production) : List Symbol := p.head ++ p.daughters

/-- The texts of symbols. -/
def texts (symbols : List Symbol) : List String := symbols.map Symbol.text

/-- The production in a listing. -/
def shown (p : Production) : String :=
  "Production(" ++ Text.quotedTuple (texts p.head) ++ ", " ++
    Text.quotedTuple (texts p.daughters) ++ ")"

/-- The delimiter that is used when none is chosen. -/
def arrow : String := "-->"

/-- Writes a production as the text of a rule. -/
def render (p : Production) (delimiter : String) : String :=
  Text.joinStrings "," (texts p.head) ++ " " ++ delimiter ++ " " ++
    Text.joinStrings "," (texts p.daughters)

/-- A production as the text of a rule with the usual delimiter. -/
def text (p : Production) : String := p.render arrow

end Production

end PhraseStructure
