import PhraseStructure.Proofs.Tree.TokenSequence

/-!
# Writing a tree that was read

A tree that was read from a text with brackets is read back from what is written for it. A text
without brackets is read as a tree of nothing but a label, which may hold blanks. Behind the bracket
that is then written in front of it the label ends at the first blank, so that the tree is read back
exactly if there is none (`read_written_of_read`). What is read in its stead is read back in any
case.
-/

namespace PhraseStructure.Tree

open Brackets

variable {b : Brackets} {cs : List Char}

/-- Text without brackets is still without brackets when it is trimmed. -/
theorem isFree_trim (h : b.IsFree cs) : b.IsFree (Text.trim cs) := by
  obtain ⟨before, after, hcs, -, -⟩ := Text.exists_eq_append_trim cs
  rw [hcs] at h
  exact (isFree_append.mp (isFree_append.mp h).2).1

/-- A readable node is written as a text from which it is read, without an entry. -/
theorem read_flat (hb : b.opening ≠ b.closing) {t : Tree String} (hnode : t.isNode = true)
    (h : t.IsReadable b) :
    Tree.read (.text (t.flat b.enclosure)) (.text b.text) = ⟨[], .ok t⟩ := by
  cases t with
  | leaf word => cases hnode
  | node label children => rw [read_text hb, readChars_flat hb h]

/-- From what is written for a node without children a readable node is read. -/
theorem exists_read_flat_bare (hb : b.opening ≠ b.closing) {label : String}
    (hlabel : b.IsFree label.toList) :
    ∃ t, t.isNode = true ∧ t.IsReadable b ∧
      Tree.read (.text ((node label []).flat b.enclosure)) (.text b.text) = ⟨[], .ok t⟩ := by
  have hpiece : b.IsBracketing ((node label []).flat b.enclosure).toList := by
    rw [toList_flat_node, toList_flatAll_nil, List.nil_append]
    exact .enclosed hb (.of_isFree hlabel)
  obtain ⟨t, hbuilt, ht⟩ := readChars_bracketing hb hpiece
  obtain ⟨hnode, hreadable, -⟩ := node_of_isBracketing hb hpiece hbuilt
  exact ⟨t, hnode, hreadable, by rw [read_text hb, ht]⟩

/-- Without brackets in it, a label can be read if there are no blanks in it. -/
theorem isReadable_bare_iff {label : String} (hlabel : b.IsFree label.toList) :
    (node label []).IsReadable b ↔ ∀ c ∈ label.toList, Text.isBlank c = false := by
  simp only [IsReadable, AreReadable, and_true]
  constructor
  · intro h c hc
    exact (isPlain_iff.mp (h c hc)).1
  · intro h c hc
    exact isPlain_iff.mpr ⟨h c hc, hlabel c hc⟩

/-- A tree that was read is written as a text from which it is read back, without an entry, exactly
if there was a bracket in the text that it was read from, or no blank but at the ends of it.
Otherwise another tree is read, which is read back from what is written for it. -/
theorem read_written_of_read (hb : b.opening ≠ b.closing) {s : String} {t : Tree String}
    (hread : (Tree.read (.text s) (.text b.text)).result = .ok t) :
    ∃ w t', t.written (.text b.text) = .ok w ∧
      Tree.read (.text w) (.text b.text) = ⟨[], .ok t'⟩ ∧
      (t' = t ↔ ¬b.IsFree s.toList ∨ ∀ c ∈ Text.trim s.toList, Text.isBlank c = false) ∧
      ∃ w', t'.written (.text b.text) = .ok w' ∧
        Tree.read (.text w') (.text b.text) = ⟨[], .ok t'⟩ := by
  rw [read_text hb] at hread
  by_cases hfree : b.IsFree s.toList
  · obtain ⟨label, hlabel⟩ : ∃ label : String, label.toList = Text.trim s.toList :=
      ⟨_, String.toList_ofList⟩
    have hlabelFree : b.IsFree label.toList := hlabel ▸ isFree_trim hfree
    rw [readChars_of_isFree hfree, ← hlabel, String.ofList_toList] at hread
    cases hread
    obtain ⟨t', hnode, hreadable, hread'⟩ := exists_read_flat_bare hb hlabelFree
    refine ⟨_, t', written_text b _, hread', ?_, _, written_text b t', read_flat hb hnode hreadable⟩
    rw [← hlabel, ← isReadable_bare_iff hlabelFree]
    constructor
    · rintro rfl
      exact .inr hreadable
    · intro h
      have hsame := read_flat hb rfl (h.resolve_left (not_not_intro hfree))
      rw [hread'] at hsame
      cases hsame
      rfl
  · obtain ⟨-, -, hnode, hreadable, -⟩ := exists_firstBracketing_of_read hb hfree hread
    have hsame := read_flat hb hnode hreadable
    exact ⟨_, t, written_text b t, hsame, iff_of_true rfl (.inl hfree), _, written_text b t, hsame⟩

/-- A text with blanks around its brackets, and a text without brackets and with blanks at its ends.
-/
theorem read_written_of_read_trimmed :
    Brackets.round.opening ≠ Brackets.round.closing ∧
    (∃ t w, (Tree.read (.text " ( a (b )) ") (.text Brackets.round.text)).result = .ok t ∧
      t.written (.text Brackets.round.text) = .ok w ∧
      Tree.read (.text w) (.text Brackets.round.text) = ⟨[], .ok t⟩) ∧
    ∃ t w, (Tree.read (.text " John ") (.text Brackets.round.text)).result = .ok t ∧
      t.written (.text Brackets.round.text) = .ok w ∧
      Tree.read (.text w) (.text Brackets.round.text) = ⟨[], .ok t⟩ := by
  have hb : Brackets.round.opening ≠ Brackets.round.closing := by decide
  refine ⟨hb, ?_, ?_⟩
  · have hread : (Tree.read (.text " ( a (b )) ") (.text Brackets.round.text)).result =
        .ok (node "" [leaf "a", node "b" []]) := by cbv
    have hbracket : ¬Brackets.round.IsFree " ( a (b )) ".toList :=
      fun hfree => absurd rfl (hfree '(' (by decide)).1
    obtain ⟨w, t', hw, hread', hsame, -⟩ := read_written_of_read hb hread
    obtain rfl := hsame.mpr (.inl hbracket)
    exact ⟨_, w, hread, hw, hread'⟩
  · have hread : (Tree.read (.text " John ") (.text Brackets.round.text)).result =
        .ok (node "John" []) := by cbv
    have hall : (Text.trim " John ".toList).all (!Text.isBlank ·) = true := by decide
    have hvisible : ∀ c ∈ Text.trim " John ".toList, Text.isBlank c = false := by
      simpa only [List.all_eq_true, Bool.not_eq_true'] using hall
    obtain ⟨w, t', hw, hread', hsame, -⟩ := read_written_of_read hb hread
    obtain rfl := hsame.mpr (.inr hvisible)
    exact ⟨_, w, hread, hw, hread'⟩

/-- A text without brackets that holds a blank is not read back from what is written for its tree: a
label with a blank in it becomes a label and a leaf. -/
theorem not_read_written_of_read_eq :
    ¬∀ (b : Brackets) (s : String) (t : Tree String), b.opening ≠ b.closing →
      (Tree.read (.text s) (.text b.text)).result = .ok t →
      ∃ w, t.written (.text b.text) = .ok w ∧
        (Tree.read (.text w) (.text b.text)).result = .ok t := by
  intro h
  have hread : (Tree.read (.text "a b") (.text Brackets.round.text)).result =
      .ok (node "a b" []) := by cbv
  obtain ⟨w, hw, hagain⟩ := h .round "a b" _ (by decide) hread
  have hwritten : (node "a b" []).written (.text Brackets.round.text) = .ok "(a b)" := by cbv
  cases hwritten.symm.trans hw
  have hother : (Tree.read (.text "(a b)") (.text Brackets.round.text)).result =
      .ok (node "a" [leaf "b"]) := by cbv
  simpa using hother.symm.trans hagain

end PhraseStructure.Tree
