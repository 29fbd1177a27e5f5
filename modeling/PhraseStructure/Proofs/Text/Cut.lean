import Mathlib.Data.List.Infix
import PhraseStructure.Text.Blank
import PhraseStructure.Text.Cut

/-!
# Where a text is cut

A text is cut at the first occurrence of a separator. Where pieces of text that do not hold the
separator are joined with it, this need not be one of the separators in between: an occurrence may
start in a piece and end in the separator behind it (`StandsFirst`, `cut?_append_iff`). It cannot
when the separator has no border, which is a part that stands both at its start and at its end
(`IsUnbordered.standsFirst`). Then splitting gives the pieces back that were joined
(`splitOn_join`).
-/

namespace PhraseStructure.Text

/-- Nothing but the empty text and the whole one stands both at the start and at the end. -/
def IsUnbordered (sep : List Char) : Prop :=
  ∀ border, border <+: sep → border <:+ sep → border = [] ∨ border = sep

variable {sep cs before after piece : List Char} {pieces : List (List Char)}

instance (sep : List Char) : Decidable (IsUnbordered sep) :=
  decidable_of_iff (∀ border ∈ sep.inits, border <:+ sep → border = [] ∨ border = sep)
    (by simp [IsUnbordered])

/-- A single character has no border. -/
theorem isUnbordered_singleton (c : Char) : IsUnbordered [c] := by
  intro border hfront _
  rcases List.prefix_cons_iff.mp hfront with rfl | ⟨rest, rfl, hrest⟩
  · exact .inl rfl
  · exact .inr (by rw [List.prefix_nil.mp hrest])

/-- Behind this text a separator is the first one: no occurrence starts in the text and ends before
the separator does. -/
def StandsFirst (sep before : List Char) : Prop := ¬sep <:+: before ++ sep.dropLast

instance (sep before : List Char) : Decidable (StandsFirst sep before) :=
  inferInstanceAs (Decidable (¬sep <:+: before ++ sep.dropLast))

/-- A separator does not occur in itself without its last character. -/
theorem not_infix_dropLast (hne : sep ≠ []) : ¬sep <:+: sep.dropLast := by
  intro h
  have hlength := h.length_le
  have hpos := List.length_pos_iff.mpr hne
  rw [List.length_dropLast] at hlength
  omega

/-- A separator without a border stands first behind every text that does not hold it. -/
theorem IsUnbordered.standsFirst (hsep : IsUnbordered sep) (h : ¬sep <:+: before) :
    StandsFirst sep before := by
  have hne : sep ≠ [] := by
    rintro rfl
    exact h List.nil_infix
  intro hpart
  rcases List.infix_append_iff.mp hpart with hbefore | hlast | ⟨front, back, heq, hfront, hback⟩
  · exact h hbefore
  · exact not_infix_dropLast hne hlast
  · have hborder : back <+: sep := hback.trans (List.dropLast_prefix sep)
    rcases hsep back hborder ⟨front, heq.symm⟩ with rfl | rfl
    · rw [List.append_nil] at heq
      exact h (heq ▸ hfront.isInfix)
    · exact not_infix_dropLast hne hback.isInfix

section Cutting

/-- Behind a separator at the start is the rest of the text. -/
theorem afterLeading?_append (sep rest : List Char) :
    afterLeading? sep (sep ++ rest) = some rest := by
  induction sep with
  | nil => rfl
  | cons s sep ih => simp [afterLeading?, ih]

/-- There is nothing behind a separator that does not stand at the start. -/
theorem afterLeading?_eq_none_iff : afterLeading? sep cs = none ↔ ¬sep <+: cs := by
  constructor
  · rintro h ⟨rest, rfl⟩
    rw [afterLeading?_append] at h
    exact nomatch h
  · intro h
    cases hrest : afterLeading? sep cs with
    | none => rfl
    | some rest => exact absurd ⟨rest, (eq_of_afterLeading? hrest).symm⟩ h

/-- A text is not cut exactly if it does not hold the separator. -/
theorem cut?_eq_none_iff : cut? sep cs = none ↔ ¬sep <:+: cs := by
  induction cs with
  | nil => rw [cut?, Option.map_eq_none_iff, afterLeading?_eq_none_iff, List.prefix_nil,
      List.infix_nil]
  | cons c cs ih =>
    rw [List.infix_cons_iff, not_or, ← ih, ← afterLeading?_eq_none_iff, cut?]
    cases afterLeading? sep (c :: cs) with
    | none => simp
    | some rest => simp

/-- The search tells whether the separator occurs in the text. -/
theorem contains_iff : contains sep cs = true ↔ sep <:+: cs := by
  rw [contains, ← not_iff_not, ← cut?_eq_none_iff]
  simp

/-- A text is cut at the first occurrence of the separator. -/
theorem not_infix_of_cut? (hne : sep ≠ []) (h : cut? sep cs = some (before, after)) :
    ¬sep <:+: before := by
  induction cs generalizing before after with
  | nil =>
    obtain ⟨rest, -, heq⟩ := Option.map_eq_some_iff.mp h
    cases heq
    simpa using hne
  | cons c cs ih =>
    rw [cut?] at h
    split at h
    · cases h
      simpa using hne
    · next hnone =>
      obtain ⟨⟨front, rest⟩, hcut, heq⟩ := Option.map_eq_some_iff.mp h
      cases heq
      rw [List.infix_cons_iff, not_or]
      refine ⟨fun hfront => afterLeading?_eq_none_iff.mp hnone ?_, ih hcut⟩
      rw [eq_of_cut? hcut, List.append_assoc, ← List.cons_append]
      exact List.prefix_append_of_prefix hfront

/-- A text is cut at the separator that stands between two parts exactly if it is the first one. -/
theorem cut?_append_iff (hne : sep ≠ []) (after : List Char) :
    cut? sep (before ++ (sep ++ after)) = some (before, after) ↔ StandsFirst sep before := by
  induction before with
  | nil =>
    refine iff_of_true ?_ (not_infix_dropLast hne)
    obtain ⟨s, rest, rfl⟩ := List.exists_cons_of_ne_nil hne
    have hleading := afterLeading?_append (s :: rest) after
    rw [List.cons_append] at hleading
    rw [List.nil_append, List.cons_append, cut?, hleading]
  | cons c cs ih =>
    -- An occurrence at the first character is decided by as many characters as the separator has.
    have hfront : sep <+: c :: (cs ++ (sep ++ after)) ↔ sep <+: c :: (cs ++ sep.dropLast) := by
      have hshorter : c :: (cs ++ sep.dropLast) <+: c :: (cs ++ (sep ++ after)) := by
        rw [List.prefix_cons_inj, List.prefix_append_right_inj]
        exact (List.dropLast_prefix sep).trans (List.prefix_append sep after)
      constructor
      · intro h
        refine List.prefix_of_prefix_length_le h hshorter ?_
        simp only [List.length_cons, List.length_append, List.length_dropLast]
        omega
      · intro h
        exact h.trans hshorter
    have hsplit : StandsFirst sep (c :: cs) ↔
        ¬sep <+: c :: (cs ++ (sep ++ after)) ∧ StandsFirst sep cs := by
      rw [StandsFirst, List.cons_append, List.infix_cons_iff, not_or, hfront]
      rfl
    rw [hsplit, ← ih, ← afterLeading?_eq_none_iff, List.cons_append, cut?]
    cases afterLeading? sep (c :: (cs ++ (sep ++ after))) with
    | none => simp
    | some rest => simp

/-- Behind a text that does not hold it, a separator without a border is found where it stands. -/
theorem cut?_append (hsep : IsUnbordered sep) (hbefore : ¬sep <:+: before) (after : List Char) :
    cut? sep (before ++ (sep ++ after)) = some (before, after) := by
  have hne : sep ≠ [] := by
    rintro rfl
    exact hbefore List.nil_infix
  exact (cut?_append_iff hne after).mpr (hsep.standsFirst hbefore)

/-- What comes behind a text does not change where the text is cut. -/
theorem cut?_append_of_eq_some (h : cut? sep cs = some (before, after)) (rest : List Char) :
    cut? sep (cs ++ rest) = some (before, after ++ rest) := by
  induction cs generalizing before with
  | nil =>
    obtain ⟨found, hfound, heq⟩ := Option.map_eq_some_iff.mp h
    cases heq
    obtain ⟨rfl, rfl⟩ := List.append_eq_nil_iff.mp (eq_of_afterLeading? hfound).symm
    cases rest <;> rfl
  | cons c cs ih =>
    rw [cut?] at h
    rw [List.cons_append, cut?]
    split at h
    · next found hfound =>
      cases h
      have hrest : afterLeading? sep (c :: (cs ++ rest)) = some (after ++ rest) := by
        rw [← List.cons_append, eq_of_afterLeading? hfound, List.append_assoc, afterLeading?_append]
      rw [hrest]
    · next hnone =>
      obtain ⟨⟨front, found⟩, hcut, heq⟩ := Option.map_eq_some_iff.mp h
      cases heq
      have hlength : sep.length ≤ (c :: cs).length := by
        have := congrArg List.length (eq_of_cut? hcut)
        simp only [List.length_append, List.length_cons] at this ⊢
        omega
      have hstill : afterLeading? sep (c :: (cs ++ rest)) = none := by
        rw [afterLeading?_eq_none_iff] at hnone ⊢
        intro hfront
        exact hnone (List.prefix_of_prefix_length_le hfront (List.prefix_append (c :: cs) rest)
          hlength)
      rw [hstill, ih hcut]
      rfl

end Cutting

section Joining

/-- A separator stands between the first piece and the others. -/
theorem join_cons (sep piece : List Char) (h : pieces ≠ []) :
    join sep (piece :: pieces) = piece ++ sep ++ join sep pieces :=
  join.eq_3 sep piece pieces h

/-- A piece is part of the text that is joined of it and others. -/
theorem infix_join (sep : List Char) (h : piece ∈ pieces) : piece <:+: join sep pieces := by
  induction pieces with
  | nil => simp at h
  | cons first pieces ih =>
    by_cases hlast : pieces = []
    · subst hlast
      rw [List.mem_singleton.mp h, join]
    · rw [join_cons sep first hlast]
      rcases List.mem_cons.mp h with rfl | hmem
      · exact ⟨[], sep ++ join sep pieces, by simp⟩
      · exact (ih hmem).trans (List.suffix_append _ _).isInfix

/-- Without the separator's character, nothing lies across a separator. -/
theorem infix_or_infix_of_infix_append {part : List Char} {c : Char} (hc : c ∉ part)
    (h : part <:+: before ++ c :: after) : part <:+: before ∨ part <:+: after := by
  have hnil : ∀ {xs}, xs <+: c :: after → xs ⊆ part → xs = [] := by
    intro xs hxs hsub
    rcases List.prefix_cons_iff.mp hxs with rfl | ⟨rest, rfl, -⟩
    · rfl
    · exact absurd (hsub List.mem_cons_self) hc
  rcases List.infix_append_iff.mp h with hbefore | hrest | ⟨front, back, rfl, hfront, hback⟩
  · exact .inl hbefore
  · rcases List.infix_cons_iff.mp hrest with hfirst | hafter
    · exact .inl (hnil hfirst (List.Subset.refl part) ▸ List.nil_infix)
    · exact .inr hafter
  · rw [hnil hback (List.subset_append_right front back), List.append_nil]
    exact .inl hfront.isInfix

/-- What occurs in no piece does not occur in the pieces joined with a character that it does not
hold. -/
theorem not_infix_join {part : List Char} {c : Char} (hc : c ∉ part) (hne : part ≠ [])
    (h : ∀ piece ∈ pieces, ¬part <:+: piece) : ¬part <:+: join [c] pieces := by
  induction pieces with
  | nil => simpa [join] using hne
  | cons first pieces ih =>
    obtain ⟨hfirst, hrest⟩ := List.forall_mem_cons.mp h
    by_cases hlast : pieces = []
    · subst hlast
      simpa [join] using hfirst
    · rw [join_cons [c] first hlast, List.append_assoc, List.singleton_append]
      intro hpart
      exact (infix_or_infix_of_infix_append hc hpart).elim hfirst (ih hrest)

/-- Blanks are removed from the pieces and from the separator. -/
theorem removeBlanks_join (sep : List Char) (pieces : List (List Char)) :
    removeBlanks (join sep pieces) = join (removeBlanks sep) (pieces.map removeBlanks) := by
  induction pieces with
  | nil => rfl
  | cons first pieces ih =>
    by_cases hlast : pieces = []
    · subst hlast
      rfl
    · rw [join_cons sep first hlast, List.map_cons, join_cons _ _ (by simpa using hlast),
        removeBlanks_append, removeBlanks_append, ih]

/-- Between the pieces of two sequences that are joined there is one more separator. -/
theorem join_append {others : List (List Char)} (hpieces : pieces ≠ []) (hothers : others ≠ []) :
    join sep (pieces ++ others) = join sep pieces ++ sep ++ join sep others := by
  induction pieces with
  | nil => exact absurd rfl hpieces
  | cons first pieces ih =>
    by_cases hlast : pieces = []
    · subst hlast
      rw [List.singleton_append, join_cons sep first hothers, join]
    · have hmore : pieces ++ others ≠ [] := List.append_ne_nil_of_left_ne_nil hlast others
      rw [List.cons_append, join_cons sep first hmore, ih hlast, join_cons sep first hlast]
      simp only [List.append_assoc]

/-- Further pieces come in groups. -/
theorem join_append_flatMap {α : Type} {group : α → List (List Char)} (sep : List Char)
    (hpieces : pieces ≠ []) (hgroup : ∀ x, group x ≠ []) (xs : List α) :
    join sep (pieces ++ xs.flatMap group) =
      join sep pieces ++ xs.flatMap fun x => sep ++ join sep (group x) := by
  induction xs generalizing pieces with
  | nil => simp
  | cons x xs ih =>
    have hmore : pieces ++ group x ≠ [] := List.append_ne_nil_of_left_ne_nil hpieces _
    rw [List.flatMap_cons, ← List.append_assoc, ih hmore, join_append hpieces (hgroup x),
      List.flatMap_cons]
    simp only [List.append_assoc]

/-- Behind pieces that are joined with a character that is not in the separator, and do not hold the
separator, it matters only what the last piece is. -/
theorem standsFirst_join_concat {c : Char} {last : List Char} (hne : sep ≠ []) (hc : c ∉ sep)
    (h : ∀ piece ∈ pieces, ¬sep <:+: piece) :
    StandsFirst sep (join [c] (pieces ++ [last])) ↔ StandsFirst sep last := by
  have hsuffix : last <:+ join [c] (pieces ++ [last]) :=
    join_concat [c] pieces last ▸ List.suffix_append _ last
  rw [StandsFirst, StandsFirst, not_iff_not]
  constructor
  · intro hpart
    by_cases hnil : pieces = []
    · subst hnil
      exact hpart
    · rw [join_append hnil (List.cons_ne_nil last []), join, List.append_assoc, List.append_assoc,
        List.singleton_append] at hpart
      have hfront := not_infix_join hc hne h
      exact (infix_or_infix_of_infix_append hc hpart).resolve_left hfront
  · intro hpart
    obtain ⟨front, hfront⟩ := hsuffix
    rw [← hfront, List.append_assoc]
    exact hpart.trans (List.suffix_append front _).isInfix

end Joining

section Splitting

variable {hne : sep ≠ []}

/-- A text without the separator is the only piece. -/
theorem splitOn_of_cut?_eq_none (h : cut? sep cs = none) : splitOn sep hne cs = [cs] := by
  rw [splitOn]
  split
  · rfl
  · next hsome => cases h.symm.trans hsome

/-- The first piece stands in front of the first separator, and the others behind it. -/
theorem splitOn_of_cut?_eq_some (h : cut? sep cs = some (before, after)) :
    splitOn sep hne cs = before :: splitOn sep hne after := by
  rw [splitOn]
  split
  · next hnone => cases h.symm.trans hnone
  · next hsome =>
    cases h.symm.trans hsome
    rfl

/-- There is always a piece. -/
theorem splitOn_ne_nil (hne : sep ≠ []) (cs : List Char) : splitOn sep hne cs ≠ [] := by
  cases h : cut? sep cs with
  | none => simp [splitOn_of_cut?_eq_none h]
  | some parts => simp [splitOn_of_cut?_eq_some h]

/-- No piece holds the separator. -/
theorem not_infix_of_mem_splitOn (h : piece ∈ splitOn sep hne cs) : ¬sep <:+: piece := by
  fun_induction splitOn sep hne cs with
  | case1 cs hnone =>
    rw [List.mem_singleton.mp h]
    exact cut?_eq_none_iff.mp hnone
  | case2 cs before after hsome ih =>
    rcases List.mem_cons.mp h with rfl | hmem
    · exact not_infix_of_cut? hne hsome
    · exact ih hmem

/-- Pieces that do not hold a separator without a border are got back from their join. -/
theorem splitOn_join (hsep : IsUnbordered sep) (hpieces : pieces ≠ [])
    (h : ∀ piece ∈ pieces, ¬sep <:+: piece) : splitOn sep hne (join sep pieces) = pieces := by
  induction pieces with
  | nil => exact absurd rfl hpieces
  | cons first pieces ih =>
    obtain ⟨hfirst, hrest⟩ := List.forall_mem_cons.mp h
    by_cases hlast : pieces = []
    · subst hlast
      exact splitOn_of_cut?_eq_none (cut?_eq_none_iff.mpr hfirst)
    · have hcut := cut?_append hsep hfirst (join sep pieces)
      rw [join_cons sep first hlast, List.append_assoc, splitOn_of_cut?_eq_some hcut,
        ih hlast hrest]

/-- There is always a piece. -/
theorem splitAtCommas_ne_nil (cs : List Char) : splitAtCommas cs ≠ [] := splitOn_ne_nil _ cs

/-- The pieces between commas make up the text. -/
theorem join_splitAtCommas (cs : List Char) : join [','] (splitAtCommas cs) = cs :=
  join_splitOn [','] _ cs

/-- No piece between commas holds one. -/
theorem not_mem_of_mem_splitAtCommas (h : piece ∈ splitAtCommas cs) : ',' ∉ piece := by
  rw [← List.singleton_infix_iff]
  exact not_infix_of_mem_splitOn h

/-- Pieces without commas are found again between commas. -/
theorem splitAtCommas_join (hpieces : pieces ≠ []) (h : ∀ piece ∈ pieces, ',' ∉ piece) :
    splitAtCommas (join [','] pieces) = pieces := by
  refine splitOn_join (isUnbordered_singleton ',') hpieces fun piece hpiece => ?_
  rw [List.singleton_infix_iff]
  exact h piece hpiece

end Splitting

end PhraseStructure.Text
