import PhraseStructure.Production.Reading

/-!
# Rules in text

A rule is written as its head symbols, a delimiter and its daughters, with commas between the
symbols of a side. Blanks carry no meaning. `Sides.read` reads such a text, `Production.render`
writes it, and `Production.ofRule` makes a production of whatever is given as a rule.
-/

namespace PhraseStructure

/-- The texts of the symbols on the two sides of a rule. -/
structure Sides where
  head : List String
  daughters : List String
  deriving DecidableEq, Repr

namespace Sides

/-- The symbols of one side, between commas. None of them may be empty. -/
def readSymbols (rule : String) (side : List Char) : Except Fault (List String) :=
  let symbols := Text.splitAtCommas side
  if symbols.all (!·.isEmpty) then .ok (symbols.map String.ofList) else .error (.emptySymbol rule)

/-- Reads the text of a rule. The delimiter, without its blanks, occurs exactly once in the text
without its blanks. Only the daughters may be missing. -/
def read (rule delimiter : String) : Except Fault Sides :=
  let delim := Text.removeBlanks delimiter.toList
  if delim.isEmpty then .error .blankDelimiter
  else
    match Text.cut? delim (Text.removeBlanks rule.toList) with
    | none => .error (.delimiterCount rule (String.ofList delim))
    | some (head, daughters) =>
        if Text.contains delim daughters then
          .error (.delimiterCount rule (String.ofList delim))
        else if head.isEmpty then .error (.noHeadSymbols rule)
        else do
          let heads ← readSymbols rule head
          let daughters ← if daughters.isEmpty then .ok [] else readSymbols rule daughters
          return ⟨heads, daughters⟩

end Sides

namespace Production

/-- The production of two sides under chosen brackets. -/
def ofSides (sides : Sides) (brackets : Datum) : Except Fault Production :=
  read (.list (sides.head.map .text)) (.list (sides.daughters.map .text)) brackets

/-- Reads the text of a rule. What is no text is refused: the rule first, then the delimiter. -/
def ofText (rule delimiter brackets : Datum) : Except Fault Production :=
  match rule, delimiter with
  | .text rule, .text delimiter => do ofSides (← Sides.read rule delimiter) brackets
  | .text _, _ => .error .wrongKind
  | _, _ => .error (.notRuleText rule)

/-- The production that a value is as a rule. A text is read as a rule, and any other value but a
production must be a pair of sides. -/
def ofRule (rule delimiter brackets : Datum) : Except Fault Production :=
  match rule with
  | .production p => .ok p
  | .text _ => ofText rule delimiter brackets
  | _ =>
      match rule.elements? with
      | some [head, daughters] => read head daughters brackets
      | _ => .error (.notRule rule)

end Production

end PhraseStructure
