/-!
# Blank characters

Rule text and bracketed text are laid out with blanks, which carry no meaning of their own. This
module fixes the characters that count as blank, and the operations on text that look at them:
removing all blanks, and trimming the ends.
-/

namespace PhraseStructure.Text

/-- The blank characters: the controls that move the carriage or separate records, the space, the
next-line control, and the spaces and separators of the Unicode block tables. -/
def isBlank (c : Char) : Bool :=
  let n := c.toNat
  (0x09 ≤ n && n ≤ 0x0D) || (0x1C ≤ n && n ≤ 0x20) || n == 0x85 || n == 0xA0 || n == 0x1680 ||
    (0x2000 ≤ n && n ≤ 0x200A) || n == 0x2028 || n == 0x2029 || n == 0x202F || n == 0x205F ||
    n == 0x3000

/-- The characters that are not blank, in order. -/
def removeBlanks (cs : List Char) : List Char := cs.filter (!isBlank ·)

/-- Whether there is nothing but blanks. -/
def allBlank (cs : List Char) : Bool := cs.all isBlank

/-- The text without the blanks at its start. -/
def trimStart (cs : List Char) : List Char := cs.dropWhile isBlank

/-- The text without the blanks at its end. -/
def trimEnd (cs : List Char) : List Char := (cs.reverse.dropWhile isBlank).reverse

/-- The text without the blanks at either end. -/
def trim (cs : List Char) : List Char := trimEnd (trimStart cs)

/-- The pieces of the text between runs of blanks; a piece is never empty. The second argument is
the piece that is being read, in reverse. -/
def wordsFrom : List Char → List Char → List (List Char)
  | [], [] => []
  | [], piece => [piece.reverse]
  | c :: cs, piece =>
      if isBlank c then
        match piece with
        | [] => wordsFrom cs []
        | _ => piece.reverse :: wordsFrom cs []
      else wordsFrom cs (c :: piece)

/-- The pieces of the text between runs of blanks; a piece is never empty. -/
def words (cs : List Char) : List (List Char) := wordsFrom cs []

/-- There is nothing to be removed from the empty text. -/
@[simp] theorem removeBlanks_nil : removeBlanks [] = [] := rfl

/-- Blanks are removed from two texts, one after the other. -/
theorem removeBlanks_append (cs ds : List Char) :
    removeBlanks (cs ++ ds) = removeBlanks cs ++ removeBlanks ds := by
  simp [removeBlanks]

/-- Nothing is left exactly of a blank text. -/
theorem removeBlanks_eq_nil_iff {cs : List Char} : removeBlanks cs = [] ↔ allBlank cs = true := by
  simp [removeBlanks, allBlank]

/-- Text from which the blanks were removed holds no blank. -/
theorem isBlank_of_mem_removeBlanks {c : Char} {cs : List Char} (h : c ∈ removeBlanks cs) :
    isBlank c = false := by
  simpa using (List.mem_filter.mp h).2

/-- A text is what is trimmed of it, between blanks. -/
theorem exists_eq_append_trim (cs : List Char) : ∃ before after,
    cs = before ++ (trim cs ++ after) ∧ allBlank before = true ∧ allBlank after = true := by
  refine ⟨cs.takeWhile isBlank, ((trimStart cs).reverse.takeWhile isBlank).reverse, ?_, ?_, ?_⟩
  · rw [trim, trimEnd, ← List.reverse_append, List.takeWhile_append_dropWhile, List.reverse_reverse,
      trimStart, List.takeWhile_append_dropWhile]
  · exact List.all_takeWhile
  · rw [allBlank, List.all_reverse]
    exact List.all_takeWhile

/-- Trimming a text removes only blanks. -/
theorem removeBlanks_trim (cs : List Char) : removeBlanks (trim cs) = removeBlanks cs := by
  obtain ⟨before, after, hcs, hbefore, hafter⟩ := exists_eq_append_trim cs
  have hparts := congrArg removeBlanks hcs
  rw [removeBlanks_append, removeBlanks_append, removeBlanks_eq_nil_iff.mpr hbefore,
    removeBlanks_eq_nil_iff.mpr hafter, List.append_nil, List.nil_append] at hparts
  exact hparts.symm

end PhraseStructure.Text
