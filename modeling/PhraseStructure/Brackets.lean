import PhraseStructure.Text.Blank

/-!
# Pairs of brackets

Terminal symbols and the nodes of trees are written between brackets: two characters, neither of
them blank. Main statement: `Brackets.ofChars?_eq_some_iff`, which texts are brackets.
-/

namespace PhraseStructure

/-- A pair of bracket characters. -/
structure Brackets where
  /-- The character before the bracketed text. -/
  opening : Char
  /-- The character after the bracketed text. -/
  closing : Char
  opening_visible : Text.isBlank opening = false
  closing_visible : Text.isBlank closing = false
  deriving DecidableEq

namespace Brackets

/-- The brackets around terminal symbols when none are chosen. -/
def square : Brackets := ⟨'[', ']', rfl, rfl⟩

/-- The brackets around the nodes of a tree when none are chosen. -/
def round : Brackets := ⟨'(', ')', rfl, rfl⟩

/-- The two characters of a pair. -/
def toChars (b : Brackets) : List Char := [b.opening, b.closing]

/-- A pair of brackets as text. -/
def text (b : Brackets) : String := String.ofList b.toChars

/-- The brackets that a text of two characters is. -/
def ofChars? : List Char → Option Brackets
  | [o, c] =>
      if h : Text.isBlank o = false ∧ Text.isBlank c = false then some ⟨o, c, h.1, h.2⟩ else none
  | _ => none

/-- A text is a pair of brackets exactly if it consists of the two characters of that pair. -/
theorem ofChars?_eq_some_iff {cs : List Char} {b : Brackets} :
    ofChars? cs = some b ↔ cs = b.toChars := by
  constructor
  · intro h
    unfold ofChars? at h
    split at h
    · split at h
      · cases h
        rfl
      · exact absurd h (by simp)
    · exact absurd h (by simp)
  · rintro rfl
    simp [toChars, ofChars?, b.opening_visible, b.closing_visible]

end Brackets

end PhraseStructure
