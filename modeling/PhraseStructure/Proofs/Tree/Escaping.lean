import Mathlib.Algebra.Ring.Parity
import Mathlib.Data.List.DropRight
import PhraseStructure.Proofs.Tree.Drawing

/-!
# How many backslashes stand before a reserved character

In the code that draws a tree one backslash is put before each reserved character of a label, and
nothing else is put anywhere (`exists_of_escapeReserved_eq`). The backslashes of the label itself
stay as they are, so that a reserved character has one backslash more in front of it than in the
label (`endingBackslashes_escaped`). A reader of the code takes backslashes in pairs, each for a
backslash, and only one that is left over makes the character stand for itself (`IsEscaped`). So the
characters of a drawn label are read as they are meant exactly if in the label each reserved one
stands behind an even number of backslashes (`latexLabel_laws`).
-/

namespace PhraseStructure.Tree

variable {cs front rest : List Char} {c : Char}

/-- The number of backslashes with which a text ends. -/
def endingBackslashes (cs : List Char) : Nat := (cs.rtakeWhile (· == '\\')).length

/-- Directly before each reserved character stands an odd number of backslashes. -/
def IsEscaped (cs : List Char) : Prop :=
  ∀ front c rest, cs = front ++ c :: rest → isReserved c = true → Odd (endingBackslashes front)

/-- A further backslash at the end counts. -/
theorem endingBackslashes_concat_backslash (cs : List Char) :
    endingBackslashes (cs ++ ['\\']) = endingBackslashes cs + 1 := by
  rw [endingBackslashes, List.rtakeWhile_concat_pos _ _ _ rfl, List.length_append,
    List.length_singleton, endingBackslashes]

/-- No backslash is at the end behind another character. -/
theorem endingBackslashes_concat_of_ne (hc : c ≠ '\\') (cs : List Char) :
    endingBackslashes (cs ++ [c]) = 0 := by
  rw [endingBackslashes, List.rtakeWhile_concat_neg _ _ _ (by simpa using hc), List.length_nil]

/-- A backslash is not reserved. -/
theorem ne_backslash_of_isReserved (hc : isReserved c = true) : c ≠ '\\' := by
  rintro rfl
  cases hc

/-- Two texts, one after the other, are escaped one after the other. -/
theorem escapeReserved_append (cs ds : List Char) :
    escapeReserved (cs ++ ds) = escapeReserved cs ++ escapeReserved ds :=
  List.flatMap_append

/-- At the end of a text no backslash is added. -/
theorem endingBackslashes_escapeReserved (cs : List Char) :
    endingBackslashes (escapeReserved cs) = endingBackslashes cs := by
  induction cs using List.reverseRecOn with
  | nil => rfl
  | append_singleton cs c ih =>
    rw [escapeReserved_append, escapeReserved_cons]
    by_cases hc : isReserved c = true
    · have hne := ne_backslash_of_isReserved hc
      have hsplit : escapeReserved cs ++ (['\\', c] ++ escapeReserved []) =
          (escapeReserved cs ++ ['\\']) ++ [c] := by simp [escapeReserved]
      rw [if_pos hc, hsplit, endingBackslashes_concat_of_ne hne, endingBackslashes_concat_of_ne hne]
    · have hsplit : escapeReserved cs ++ ([c] ++ escapeReserved []) = escapeReserved cs ++ [c] := by
        simp [escapeReserved]
      rw [if_neg hc, hsplit]
      by_cases hbackslash : c = '\\'
      · rw [hbackslash, endingBackslashes_concat_backslash, endingBackslashes_concat_backslash, ih]
      · rw [endingBackslashes_concat_of_ne hbackslash, endingBackslashes_concat_of_ne hbackslash]

/-- Before a reserved character stands what was there, and one more backslash. -/
theorem endingBackslashes_escaped (front : List Char) :
    endingBackslashes (escapeReserved front ++ ['\\']) = endingBackslashes front + 1 := by
  rw [endingBackslashes_concat_backslash, endingBackslashes_escapeReserved]

/-- A reserved character is escaped at its place. -/
theorem escapeReserved_reserved (hc : isReserved c = true) (front rest : List Char) :
    escapeReserved (front ++ c :: rest) =
      escapeReserved front ++ '\\' :: c :: escapeReserved rest := by
  rw [escapeReserved_append, escapeReserved_cons, if_pos hc]
  rfl

/-- A reserved character of the escaped text comes from the text, and a backslash was put directly
before it. -/
theorem exists_of_escapeReserved_eq (hc : isReserved c = true)
    (h : escapeReserved cs = front ++ c :: rest) :
    ∃ front' rest', cs = front' ++ c :: rest' ∧ front = escapeReserved front' ++ ['\\'] ∧
      rest = escapeReserved rest' := by
  have hne := ne_backslash_of_isReserved hc
  induction cs generalizing front with
  | nil => simp [escapeReserved] at h
  | cons d cs ih =>
    have hlater : ∀ front', escapeReserved cs = front' ++ c :: rest → ∃ before after,
        d :: cs = before ++ c :: after ∧
          escapeReserved [d] ++ front' = escapeReserved before ++ ['\\'] ∧
          rest = escapeReserved after := by
      intro front' hfront'
      obtain ⟨before, after, rfl, rfl, rfl⟩ := ih hfront'
      refine ⟨d :: before, after, rfl, ?_, rfl⟩
      rw [← List.append_assoc, ← escapeReserved_append, List.singleton_append]
    rw [escapeReserved_cons] at h
    by_cases hd : isReserved d = true
    · rw [if_pos hd] at h
      rcases front with - | ⟨first, - | ⟨second, front⟩⟩
      · exact absurd (List.cons.inj h).1.symm hne
      · obtain ⟨rfl, rfl, rfl⟩ : '\\' = first ∧ d = c ∧ escapeReserved cs = rest := by
          simpa using h
        exact ⟨[], cs, rfl, rfl, rfl⟩
      · obtain ⟨rfl, rfl, hrest⟩ : '\\' = first ∧ d = second ∧
            escapeReserved cs = front ++ c :: rest := by simpa using h
        obtain ⟨before, after, hcs, hfront, hrest⟩ := hlater front hrest
        refine ⟨before, after, hcs, ?_, hrest⟩
        rw [← hfront, escapeReserved_cons, if_pos hd]
        rfl
    · rw [if_neg hd] at h
      rcases front with - | ⟨first, front⟩
      · obtain ⟨rfl, -⟩ : d = c ∧ escapeReserved cs = rest := by simpa using h
        exact absurd hc hd
      · obtain ⟨rfl, hrest⟩ : d = first ∧ escapeReserved cs = front ++ c :: rest := by
          simpa using h
        obtain ⟨before, after, hcs, hfront, hrest⟩ := hlater front hrest
        refine ⟨before, after, hcs, ?_, hrest⟩
        rw [← hfront, escapeReserved_cons, if_neg hd]
        rfl

/-- Each reserved character of a label is drawn with one backslash directly before it, behind those
that stand there in the label, and each reserved character that is drawn is one of the label. So
each of them stands behind an odd number of backslashes exactly if in the label each stands behind
an even number, as where no backslash stands directly before one. Without the backslashes that stand
directly before reserved characters the label is what it was. -/
theorem latexLabel_laws (s : String) :
    (∀ front c rest, s.toList = front ++ c :: rest → isReserved c = true →
      (latexLabel s).toList = escapeReserved front ++ '\\' :: c :: escapeReserved rest) ∧
    (∀ front c rest, (latexLabel s).toList = front ++ c :: rest → isReserved c = true →
      ∃ front' rest', s.toList = front' ++ c :: rest' ∧ front = escapeReserved front' ++ ['\\'] ∧
        rest = escapeReserved rest' ∧ endingBackslashes front = endingBackslashes front' + 1) ∧
    (IsEscaped (latexLabel s).toList ↔ ∀ front c rest, s.toList = front ++ c :: rest →
      isReserved c = true → Even (endingBackslashes front)) ∧
    unescape (latexLabel s).toList = s.toList := by
  have hdrawn : ∀ front c rest, s.toList = front ++ c :: rest → isReserved c = true →
      (latexLabel s).toList = escapeReserved front ++ '\\' :: c :: escapeReserved rest := by
    intro front c rest hs hc
    rw [toList_latexLabel, hs, escapeReserved_reserved hc]
  have hmeant : ∀ front c rest, (latexLabel s).toList = front ++ c :: rest → isReserved c = true →
      ∃ front' rest', s.toList = front' ++ c :: rest' ∧ front = escapeReserved front' ++ ['\\'] ∧
        rest = escapeReserved rest' ∧ endingBackslashes front = endingBackslashes front' + 1 := by
    intro front c rest hs hc
    rw [toList_latexLabel] at hs
    obtain ⟨front', rest', hlabel, rfl, hrest⟩ := exists_of_escapeReserved_eq hc hs
    exact ⟨front', rest', hlabel, rfl, hrest, endingBackslashes_escaped front'⟩
  refine ⟨hdrawn, hmeant, ⟨fun h front c rest hs hc => ?_, fun h front c rest hs hc => ?_⟩, ?_⟩
  · have hodd := h (escapeReserved front ++ ['\\']) c (escapeReserved rest)
      (by rw [hdrawn front c rest hs hc, List.append_assoc, List.singleton_append]) hc
    rw [endingBackslashes_escaped, Nat.odd_add_one, Nat.not_odd_iff_even] at hodd
    exact hodd
  · obtain ⟨front', rest', hlabel, -, -, hcount⟩ := hmeant front c rest hs hc
    rw [hcount, Nat.odd_add_one, Nat.not_odd_iff_even]
    exact h front' c rest' hlabel hc
  · rw [toList_latexLabel, unescape_escapeReserved]

/-- A backslash in front of the reserved character makes two of them, which is no odd number. -/
theorem latexLabel_laws_backslash :
    latexLabel "\\_$" = "\\\\_\\$" ∧
      (∃ front rest, "\\_$".toList = front ++ '$' :: rest ∧
        "\\\\_\\".toList = escapeReserved front ++ ['\\'] ∧ [] = escapeReserved rest ∧
        endingBackslashes "\\\\_\\".toList = endingBackslashes front + 1) ∧
      (∃ front rest, "\\_$".toList = front ++ '_' :: rest ∧
        "\\\\".toList = escapeReserved front ++ ['\\'] ∧ "\\$".toList = escapeReserved rest ∧
        endingBackslashes "\\\\".toList = endingBackslashes front + 1) ∧
      unescape "\\\\_\\$".toList = "\\_$".toList := by
  have hlabel : latexLabel "\\_$" = "\\\\_\\$" := by decide
  obtain ⟨-, hmeant, -, hback⟩ := latexLabel_laws "\\_$"
  rw [hlabel] at hmeant hback
  exact ⟨hlabel, hmeant _ _ _ (by decide) (by decide), hmeant _ _ _ (by decide) (by decide), hback⟩

/-- A reserved character need not be escaped: from a backslash and a low line come two backslashes
and a low line. -/
theorem not_isEscaped_latexLabel : ¬ ∀ s, IsEscaped (latexLabel s).toList := by
  intro h
  have hodd := h "\\_" ['\\', '\\'] '_' [] (by decide) (by decide)
  exact absurd hodd (by decide)

end PhraseStructure.Tree
