import PhraseStructure.Text.Normal.CombiningClass
import PhraseStructure.Text.Normal.Composite

/-!
# Text in composed form

A text may be written with composites or with their parts, and with the marks on a character in
several orders. In its composed form everything is put together that can be, and marks come in the
order of their classes. `compose (order (separate codes))` is the composed form of a text, which is
given as its code points.
-/

namespace PhraseStructure.Text.Normal

/-- The parts of a character that is taken apart, and its first part after it, a number of times. -/
def lettersWithin : Nat → Nat → List Nat
  | 0, n => [n]
  | times + 1, n =>
      match parts? n with
      | some (a, b) => lettersWithin times a ++ [b]
      | none => [n]

/-- The characters that a character consists of. A composite consists of three at most. -/
def letters (n : Nat) : List Nat := (syllableParts? n).getD (lettersWithin 2 n)

/-- The text in which all composites are taken apart. -/
def separate (codes : List Nat) : List Nat := codes.flatMap letters

/-- Puts a character in front of a text; a mark goes behind the marks of lower classes. -/
def insertMark (n : Nat) : List Nat → List Nat
  | [] => [n]
  | m :: rest =>
      if combiningClass m ≠ 0 ∧ combiningClass m < combiningClass n then m :: insertMark n rest
      else n :: m :: rest

/-- The text in which marks that follow each other come in the order of their classes. -/
def order (codes : List Nat) : List Nat := codes.foldr insertMark []

/-- The composite of a character with what can be put on it from the text behind it, and what is
left of the text. A mark is in the way of marks behind it that are not of a higher class; `kept` are
the marks that stay, in reverse, and `height` is the class of the last one. -/
def absorb (n height : Nat) (kept : List Nat) : List Nat → Nat × List Nat
  | [] => (n, kept.reverse)
  | m :: rest =>
      let own := combiningClass m
      if height ≠ 0 ∧ own = 0 then (n, kept.reverse ++ m :: rest)
      else if height ≠ 0 ∧ own ≤ height then absorb n height (m :: kept) rest
      else
        match composite? n m with
        | some c => absorb c height kept rest
        | none =>
            if own = 0 then (n, kept.reverse ++ m :: rest)
            else absorb n own (m :: kept) rest

/-- What is left of the text has not grown. -/
theorem length_absorb_le (n height : Nat) (kept codes : List Nat) :
    (absorb n height kept codes).2.length ≤ kept.length + codes.length := by
  induction codes generalizing n height kept with
  | nil => simp [absorb]
  | cons m rest ih =>
      simp only [absorb]
      split
      · simp
      · split
        · refine Nat.le_trans (ih ..) ?_
          simp only [List.length_cons]
          omega
        · split
          · refine Nat.le_trans (ih ..) ?_
            simp only [List.length_cons]
            omega
          · split
            · simp
            · refine Nat.le_trans (ih ..) ?_
              simp only [List.length_cons]
              omega

/-- The text in which everything is put together that can be. -/
def compose : List Nat → List Nat
  | [] => []
  | n :: rest =>
      let absorbed := absorb n 0 [] rest
      absorbed.1 :: compose absorbed.2
termination_by codes => codes.length
decreasing_by
  have := length_absorb_le n 0 [] rest
  simp only [List.length_nil, List.length_cons] at this ⊢
  omega

/-- Whether a text is in composed form. -/
def isComposed (codes : List Nat) : Bool := compose (order (separate codes)) == codes

end PhraseStructure.Text.Normal
