import PhraseStructure.Brackets
import PhraseStructure.Text.Quoted

/-!
# Symbols

A symbol of a grammar is a text. It is terminal when it is enclosed in a pair of brackets, and the
bare pair stands for the empty string. A symbol keeps the brackets it was made with, but two
symbols are the same when their texts are.
-/

namespace PhraseStructure

/-- A symbol, with the brackets that mark terminals. -/
structure Symbol where
  text : String
  brackets : Brackets

namespace Symbol

/-- Symbols are compared by their text. -/
instance : BEq Symbol := ⟨fun a b => a.text == b.text⟩

/-- Symbols are the same when their texts are. -/
theorem beq_iff {a b : Symbol} : (a == b) = true ↔ a.text = b.text := by
  change (a.text == b.text) = true ↔ _
  exact beq_iff_eq

instance : EquivBEq Symbol where
  rfl := beq_iff.mpr rfl
  symm h := beq_iff.mpr (beq_iff.mp h).symm
  trans h₁ h₂ := beq_iff.mpr ((beq_iff.mp h₁).trans (beq_iff.mp h₂))

/-- Sequences of symbols are the same when their texts are. -/
theorem list_beq_iff {xs ys : List Symbol} : (xs == ys) = true ↔ xs.map text = ys.map text := by
  induction xs generalizing ys with
  | nil => cases ys <;> simp
  | cons x xs ih => cases ys <;> simp [ih, beq_iff]

instance : EquivBEq (List Symbol) where
  rfl := list_beq_iff.mpr rfl
  symm h := list_beq_iff.mpr (list_beq_iff.mp h).symm
  trans h₁ h₂ := list_beq_iff.mpr ((list_beq_iff.mp h₁).trans (list_beq_iff.mp h₂))

/-- A symbol enclosed in its brackets. -/
def isTerminal (s : Symbol) : Bool :=
  match s.text.toList with
  | [] | [_] => false
  | c :: cs => c == s.brackets.opening && cs.getLast? == some s.brackets.closing

def isNonterminal (s : Symbol) : Bool := !s.isTerminal

/-- The bare brackets: the empty string. -/
def isEpsilon (s : Symbol) : Bool := s.text.toList == s.brackets.toChars

/-- The text of a terminal without its brackets; any other symbol's text as it is. -/
def word (s : Symbol) : String :=
  if s.isTerminal then String.ofList (s.text.toList.tail.dropLast) else s.text

/-- Whether one symbol's text comes before the other's in the order of code points. -/
def precedes (a b : Symbol) : Bool := a.text < b.text

/-- The symbols in the order of their texts; equal ones stay in the order they had. -/
def sorted (symbols : List Symbol) : List Symbol := symbols.mergeSort fun a b => !b.precedes a

/-- The symbol in a listing; brackets are shown unless they are the usual ones. -/
def shown (s : Symbol) : String :=
  if s.brackets = Brackets.square then "Symbol(" ++ Text.quoted s.text ++ ")"
  else "Symbol(" ++ Text.quoted s.text ++ ", brackets=" ++ Text.quoted s.brackets.text ++ ")"

/-- The empty string is a terminal. -/
theorem isTerminal_of_isEpsilon {s : Symbol} (h : s.isEpsilon = true) : s.isTerminal = true := by
  have htext : s.text.toList = [s.brackets.opening, s.brackets.closing] := by
    simpa [isEpsilon, Brackets.toChars] using h
  simp [isTerminal, htext]

end Symbol

end PhraseStructure
