import PhraseStructure.Production.Basic

/-!
# Shapes of productions

The classes of grammars are defined by the shapes of their productions: how many head symbols and
daughters there are, and which of them are terminals.
-/

namespace PhraseStructure.Production

/-- A single non-terminal head. -/
def isContextFree (p : Production) : Bool :=
  match p.head with
  | [a] => a.isNonterminal
  | _ => false

/-- A context-free production into one terminal, into the empty string, or into a terminal before
a non-terminal. -/
def isRightRegular (p : Production) : Bool :=
  p.isContextFree &&
    match p.daughters with
    | [a] => a.isTerminal || a.isEpsilon
    | [a, b] => a.isTerminal && b.isNonterminal
    | _ => false

/-- A context-free production into one terminal, or into a non-terminal before a terminal. -/
def isLeftRegular (p : Production) : Bool :=
  p.isContextFree &&
    match p.daughters with
    | [a] => a.isTerminal
    | [a, b] => a.isNonterminal && b.isTerminal
    | _ => false

/-- Chomsky normal form: a context-free production into two non-terminals or one terminal. The
empty string is a terminal. -/
def isChomskyNormal (p : Production) : Bool :=
  p.isContextFree &&
    match p.daughters with
    | [a] => a.isTerminal
    | [a, b] => a.isNonterminal && b.isNonterminal
    | _ => false

/-- A context-free production into a terminal before a non-terminal, or into the empty string. -/
def isGreibachNormal (p : Production) : Bool :=
  p.isContextFree &&
    match p.daughters with
    | [a] => a.isEpsilon
    | [a, b] => a.isTerminal && b.isNonterminal
    | _ => false

/-- The daughters start with the head. -/
def isLeftRecursive (p : Production) : Bool := p.daughters.take p.head.length == p.head

/-- The head is replaced by itself. -/
def isCyclic (p : Production) : Bool := p.head == p.daughters

/-- There are daughters, and all are terminals. -/
def isLexical (p : Production) : Bool := !p.daughters.isEmpty && p.daughters.all Symbol.isTerminal

end PhraseStructure.Production
