import Mathlib.Data.List.Basic
import PhraseStructure.Text.Blank

/-!
# Text with other blanks

Where a text is broken over lines and indented, single blanks are replaced by line feeds and spaces
(`IsRespaced`). Nothing else changes: the characters that are not blank are the same ones
(`IsRespaced.removeBlanks_eq`), the words between the blanks are the same (`IsRespaced.words_eq`),
and the parts of the text can be found again (`IsRespaced.of_append`).
-/

namespace PhraseStructure.Text

/-- Whether there is nothing but spaces and line feeds. -/
def IsGap (gap : List Char) : Prop := ∀ c ∈ gap, c = ' ' ∨ c = '\n'

/-- The second text is the first one with some blanks replaced by one or more spaces and line feeds
each. -/
inductive IsRespaced : List Char → List Char → Prop
  | nil : IsRespaced [] []
  | char {cs ds : List Char} (c : Char) : IsRespaced cs ds → IsRespaced (c :: cs) (c :: ds)
  | blank {cs ds gap : List Char} {c : Char} : isBlank c = true → IsGap gap → gap ≠ [] →
      IsRespaced cs ds → IsRespaced (c :: cs) (gap ++ ds)

variable {cs ds cs' ds' gap : List Char} {c d : Char}

/-- A gap is blank. -/
theorem IsGap.allBlank (h : IsGap gap) : allBlank gap = true := by
  refine List.all_eq_true.mpr fun c hc => ?_
  rcases h c hc with rfl | rfl <;> decide

/-- A blank ends the word that is being read. -/
theorem wordsFrom_cons_of_blank (hc : isBlank c = true) (cs piece : List Char) :
    wordsFrom (c :: cs) piece = wordsFrom [] piece ++ wordsFrom cs [] := by
  cases piece with
  | nil => exact if_pos hc
  | cons d piece => exact if_pos hc

/-- A character that is not blank goes on with the word. -/
theorem wordsFrom_cons_of_not_blank (hc : isBlank c = false) (cs piece : List Char) :
    wordsFrom (c :: cs) piece = wordsFrom cs (c :: piece) :=
  if_neg (Bool.eq_false_iff.mp hc)

/-- A gap ends the word in front of it. -/
theorem wordsFrom_gap_append (hgap : allBlank gap = true) (hne : gap ≠ []) (cs piece : List Char) :
    wordsFrom (gap ++ cs) piece = wordsFrom [] piece ++ wordsFrom cs [] := by
  induction gap generalizing piece with
  | nil => exact absurd rfl hne
  | cons c gap ih =>
    rw [allBlank, List.all_cons, Bool.and_eq_true] at hgap
    obtain ⟨hc, hrest⟩ := hgap
    rw [List.cons_append, wordsFrom_cons_of_blank hc]
    cases gap with
    | nil => rfl
    | cons d gap => exact congrArg _ (ih hrest (List.cons_ne_nil d gap) [])

namespace IsRespaced

/-- Every text is respaced as itself. -/
theorem refl (cs : List Char) : IsRespaced cs cs := by
  induction cs with
  | nil => exact .nil
  | cons c cs ih => exact .char c ih

/-- One respaced text after the other is respaced. -/
theorem append (h : IsRespaced cs ds) (h' : IsRespaced cs' ds') :
    IsRespaced (cs ++ cs') (ds ++ ds') := by
  induction h with
  | nil => exact h'
  | char c _ ih => exact .char c ih
  | blank hc hgap hne _ ih =>
    rw [List.cons_append, List.append_assoc]
    exact .blank hc hgap hne ih

/-- A text of two parts was made of two texts. -/
theorem of_append (h : IsRespaced (cs ++ cs') ds) :
    ∃ front rest, ds = front ++ rest ∧ IsRespaced cs front ∧ IsRespaced cs' rest := by
  induction cs generalizing ds with
  | nil => exact ⟨[], ds, rfl, .nil, h⟩
  | cons c cs ih =>
    rw [List.cons_append] at h
    cases h with
    | char _ h =>
      obtain ⟨front, rest, rfl, hfront, hrest⟩ := ih h
      exact ⟨c :: front, rest, rfl, .char c hfront, hrest⟩
    | @blank _ _ gap _ hc hgap hne h =>
      obtain ⟨front, rest, rfl, hfront, hrest⟩ := ih h
      exact ⟨gap ++ front, rest, by simp, .blank hc hgap hne hfront, hrest⟩

/-- A character that is not blank stays. -/
theorem of_cons (h : IsRespaced (c :: cs) ds) (hc : isBlank c = false) :
    ∃ rest, ds = c :: rest ∧ IsRespaced cs rest := by
  cases h with
  | char _ h => exact ⟨_, rfl, h⟩
  | blank hblank => simp [hc] at hblank

/-- The empty text is respaced as nothing else. -/
theorem eq_nil (h : IsRespaced [] ds) : ds = [] := by
  cases h
  rfl

/-- A text that is not blank at its ends keeps these. -/
theorem of_enclosed (h : IsRespaced (c :: (cs ++ [d])) ds) (hc : isBlank c = false)
    (hd : isBlank d = false) : ∃ inner, ds = c :: (inner ++ [d]) ∧ IsRespaced cs inner := by
  obtain ⟨rest, rfl, hrest⟩ := h.of_cons hc
  obtain ⟨inner, last, rfl, hinner, hlast⟩ := hrest.of_append
  obtain ⟨tail, rfl, htail⟩ := hlast.of_cons hd
  exact ⟨inner, by rw [htail.eq_nil], hinner⟩

/-- The characters that are not blank are the same. -/
theorem removeBlanks_eq (h : IsRespaced cs ds) : removeBlanks ds = removeBlanks cs := by
  induction h with
  | nil => rfl
  | char c _ ih =>
    rw [← List.singleton_append, removeBlanks_append, ih, ← removeBlanks_append,
      List.singleton_append]
  | @blank cs ds gap c hc hgap _ _ ih =>
    have hone : removeBlanks [c] = [] := removeBlanks_eq_nil_iff.mpr (by simp [allBlank, hc])
    rw [removeBlanks_append, removeBlanks_eq_nil_iff.mpr hgap.allBlank, ih, ← List.singleton_append,
      removeBlanks_append, hone]

/-- A respaced text goes on with the same words. -/
theorem wordsFrom_eq (h : IsRespaced cs ds) (piece : List Char) :
    wordsFrom ds piece = wordsFrom cs piece := by
  induction h generalizing piece with
  | nil => rfl
  | char c _ ih =>
    cases hc : isBlank c with
    | true => rw [wordsFrom_cons_of_blank hc, wordsFrom_cons_of_blank hc, ih]
    | false => rw [wordsFrom_cons_of_not_blank hc, wordsFrom_cons_of_not_blank hc, ih]
  | blank hc hgap hne _ ih =>
    rw [wordsFrom_gap_append hgap.allBlank hne, wordsFrom_cons_of_blank hc, ih]

/-- The words are the same. -/
theorem words_eq (h : IsRespaced cs ds) : words ds = words cs := h.wordsFrom_eq []

/-- Only spaces and line feeds are new. -/
theorem mem_of_mem (h : IsRespaced cs ds) (hd : d ∈ ds) (hspace : d ≠ ' ') (hfeed : d ≠ '\n') :
    d ∈ cs := by
  induction h with
  | nil => exact hd
  | char c _ ih =>
    rcases List.mem_cons.mp hd with rfl | hrest
    · exact List.mem_cons_self
    · exact List.mem_cons_of_mem c (ih hrest)
  | @blank _ _ _ c _ hgap _ _ ih =>
    rcases List.mem_append.mp hd with hnew | hrest
    · exact ((hgap d hnew).elim hspace hfeed).elim
    · exact List.mem_cons_of_mem c (ih hrest)

end IsRespaced

end PhraseStructure.Text
