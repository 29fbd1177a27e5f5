import Mathlib.Data.List.Forall2
import PhraseStructure.Proofs.Text.Lines

/-!
# Lines at every line break

A text can be divided into lines at its line feeds only, or at every character that breaks a line. A
line that ends with a line feed may hold other line breaks, and these divide it further. What is not
blank in the smaller lines are the parts of the larger ones (`filter_lines`), and apart from blanks
nothing is lost (`flatMap_lineParts`). So the two divisions differ in blanks only, unless a line has
something on either side of a line break within it (`forall₂_lineParts`).
-/

namespace PhraseStructure.Text

variable {cs line piece : List Char} {lines : List (List Char)} {c : Char}

/-- The parts of a line between line breaks that are not blank. -/
def lineParts (line : List Char) : List (List Char) :=
  (line.splitOnP isLineBreak).filter (!allBlank ·)

/-- No line up to a line feed has more than one part. -/
def IsUncut (cs : List Char) : Prop := ∀ line ∈ splitAtFeeds cs, (lineParts line).length ≤ 1

instance (cs : List Char) : Decidable (IsUncut cs) :=
  decidable_of_iff (((splitAtFeeds cs).all fun line => (lineParts line).length ≤ 1) = true)
    (by simp [IsUncut])

section Breaking

/-- A line break is blank. -/
theorem isBlank_of_isLineBreak (h : isLineBreak c = true) : isBlank c = true := by
  simp only [isLineBreak, isBlank, Bool.or_eq_true, Bool.and_eq_true, decide_eq_true_eq,
    beq_iff_eq] at h ⊢
  omega

/-- Nothing changes when nothing is put in front of the first piece. -/
theorem modifyHead_nil_append (pieces : List (List Char)) :
    pieces.modifyHead ([].reverse ++ ·) = pieces := by
  cases pieces <;> rfl

/-- The lines of a text that are not blank are what stands between its line breaks and is not
blank. -/
theorem filter_linesFrom (cs line : List Char) :
    (linesFrom cs line).filter (!allBlank ·) =
      ((cs.splitOnP isLineBreak).modifyHead (line.reverse ++ ·)).filter (!allBlank ·) := by
  have hempty : allBlank [] = true := rfl
  fun_induction linesFrom cs line with
  | case1 => simp [hempty]
  | case2 line _ => simp
  | case3 cs line ih =>
    have hbreaks : isLineBreak '\r' = true ∧ isLineBreak '\n' = true := by decide
    rw [List.splitOnP_cons_eq_if_modifyHead, if_pos hbreaks.1,
      List.splitOnP_cons_eq_if_modifyHead, if_pos hbreaks.2, List.filter_cons, ih,
      modifyHead_nil_append]
    simp [hempty, List.filter_cons]
  | case4 c cs line _ hc ih =>
    rw [List.splitOnP_cons_eq_if_modifyHead, if_pos hc, List.filter_cons, ih,
      modifyHead_nil_append]
    simp [List.filter_cons]
  | case5 c cs line _ hc ih =>
    rw [List.splitOnP_cons_eq_if_modifyHead, if_neg hc, ih, List.modifyHead_modifyHead]
    simp [Function.comp_def]

/-- No line holds a line feed. -/
theorem not_mem_of_mem_linesFrom (hline : '\n' ∉ line) (h : piece ∈ linesFrom cs line) :
    '\n' ∉ piece := by
  fun_induction linesFrom cs line with
  | case1 => simp at h
  | case2 line _ => simp_all
  | case3 cs line ih =>
    rcases List.mem_cons.mp h with rfl | hmem
    · simpa using hline
    · exact ih (by simp) hmem
  | case4 c cs line _ hc ih =>
    rcases List.mem_cons.mp h with rfl | hmem
    · simpa using hline
    · exact ih (by simp) hmem
  | case5 c cs line _ hc ih =>
    have hfeed : isLineBreak '\n' = true := by decide
    refine ih ?_ h
    rw [List.mem_cons, not_or]
    exact ⟨fun heq => hc (heq ▸ hfeed), hline⟩

/-- No line holds a line feed. -/
theorem not_mem_of_mem_lines (h : piece ∈ Text.lines cs) : '\n' ∉ piece :=
  not_mem_of_mem_linesFrom (by simp) h

/-- The lines of a text are got back from the text that is joined of them, apart from blank ones. -/
theorem filter_splitAtFeeds_lines (cs : List Char) :
    (splitAtFeeds (join ['\n'] (Text.lines cs))).filter (!allBlank ·) =
      (Text.lines cs).filter (!allBlank ·) := by
  by_cases hne : Text.lines cs = []
  · have hnone : cut? ['\n'] (join ['\n'] []) = none := rfl
    rw [hne, splitAtFeeds, splitOn_of_cut?_eq_none hnone]
    rfl
  · rw [splitAtFeeds_join hne fun _ => not_mem_of_mem_lines]

/-- Line breaks divide the lines that end with line feeds. -/
theorem splitOnP_join (lines : List (List Char)) (hne : lines ≠ []) :
    (join ['\n'] lines).splitOnP isLineBreak = lines.flatMap (List.splitOnP isLineBreak) := by
  have hfeed : isLineBreak '\n' = true := by decide
  induction lines with
  | nil => exact absurd rfl hne
  | cons line lines ih =>
    by_cases hlast : lines = []
    · subst hlast
      simp [join]
    · rw [join_cons ['\n'] line hlast, List.append_assoc, List.singleton_append,
        List.splitOnP_append_cons _ _ hfeed, ih hlast, List.flatMap_cons]

/-- The lines of a text that are not blank are the parts of the lines that end with line feeds. -/
theorem filter_lines (cs : List Char) :
    (Text.lines cs).filter (!allBlank ·) = (splitAtFeeds cs).flatMap lineParts := by
  have hsplit := splitOnP_join (splitAtFeeds cs) (splitAtFeeds_ne_nil cs)
  rw [join_splitAtFeeds] at hsplit
  rw [Text.lines, filter_linesFrom, modifyHead_nil_append, hsplit, List.filter_flatMap]
  rfl

end Breaking

section Comparing

/-- Nothing is lost of a line but blanks. -/
theorem flatMap_lineParts (line : List Char) :
    (lineParts line).flatMap removeBlanks = removeBlanks line := by
  have hkept : ∀ pieces : List (List Char),
      (pieces.filter (!allBlank ·)).flatMap removeBlanks = pieces.flatMap removeBlanks := by
    intro pieces
    induction pieces with
    | nil => rfl
    | cons piece pieces ih =>
      by_cases hblank : allBlank piece = true
      · simp [hblank, ih, removeBlanks_eq_nil_iff.mpr hblank]
      · simp [hblank, ih]
  rw [lineParts, hkept]
  induction line with
  | nil => simp
  | cons c line ih =>
    rw [List.splitOnP_cons_eq_if_modifyHead]
    by_cases hc : isLineBreak c = true
    · rw [if_pos hc, List.flatMap_cons, ih]
      simp [removeBlanks, isBlank_of_isLineBreak hc]
    · obtain ⟨first, rest, hsplit⟩ :=
        List.exists_cons_of_ne_nil (List.splitOnP_ne_nil isLineBreak line)
      have hcons : removeBlanks (c :: first) = removeBlanks [c] ++ removeBlanks first :=
        removeBlanks_append [c] first
      rw [hsplit] at ih ⊢
      rw [if_neg hc, List.modifyHead_cons, List.flatMap_cons, hcons, List.append_assoc,
        ← List.flatMap_cons, ih]
      exact (removeBlanks_append [c] line).symm

/-- A line has no parts exactly if it is blank. -/
theorem lineParts_eq_nil_iff : lineParts line = [] ↔ allBlank line = true := by
  rw [← removeBlanks_eq_nil_iff, ← flatMap_lineParts]
  constructor
  · intro h
    rw [h, List.flatMap_nil]
  · intro h
    rw [List.eq_nil_iff_forall_not_mem]
    intro part hpart
    have hblank : removeBlanks part = [] := List.flatMap_eq_nil_iff.mp h part hpart
    have hvisible := (List.mem_filter.mp hpart).2
    simp [removeBlanks_eq_nil_iff.mp hblank] at hvisible

/-- Lines that have one part at most differ from their parts in blanks only. -/
theorem forall₂_lineParts (h : ∀ line ∈ lines, (lineParts line).length ≤ 1) :
    List.Forall₂ (fun line part => removeBlanks part = removeBlanks line)
      (lines.filter (!allBlank ·)) (lines.flatMap lineParts) := by
  induction lines with
  | nil => exact .nil
  | cons line lines ih =>
    obtain ⟨hline, hrest⟩ := List.forall_mem_cons.mp h
    rw [List.flatMap_cons]
    by_cases hblank : allBlank line = true
    · rw [List.filter_cons_of_neg (by simpa using hblank), lineParts_eq_nil_iff.mpr hblank]
      exact ih hrest
    · have hparts : lineParts line ≠ [] := fun hnil => hblank (lineParts_eq_nil_iff.mp hnil)
      obtain ⟨part, hpart⟩ : ∃ part, lineParts line = [part] := by
        refine List.length_eq_one_iff.mp ?_
        have := List.length_pos_iff.mpr hparts
        omega
      have hsame := flatMap_lineParts line
      rw [hpart, List.flatMap_singleton] at hsame
      rw [List.filter_cons_of_pos (by simpa using hblank), hpart]
      exact .cons hsame (ih hrest)

end Comparing

end PhraseStructure.Text
