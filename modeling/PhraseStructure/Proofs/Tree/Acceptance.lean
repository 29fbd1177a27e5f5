import PhraseStructure.Proofs.Bracketing

/-!
# Which texts are trees

A builder that has as many open nodes as there are brackets left to close ends with a tree
(`Builder.read_of_closes`): the stack is never empty where something is taken from it or put under
its top. Hence a text is read as a tree exactly if it has as many closing as opening brackets and
its first bracket, if there is one, is an opening one behind nothing but blanks.
-/

namespace PhraseStructure

open Brackets

variable {b : Brackets} {cs : List Char}

namespace Brackets

/-- Brackets of trees are read back from their text. -/
theorem readForTree_text (b : Brackets) : Brackets.readForTree (.text b.text) = .ok b :=
  Brackets.read_text .badKind b

/-- There are as many closing as opening brackets, and either there are none at all, or the first
one is an opening one that only blanks precede. -/
def Accepts (b : Brackets) (cs : List Char) : Prop :=
  cs.count b.opening = cs.count b.closing ∧
    (b.IsFree cs ∨ ∃ blanks rest, Text.allBlank blanks = true ∧ cs = blanks ++ b.opening :: rest)

/-- A text leaves no bracket open if it has as many closing as opening ones. -/
theorem depth_eq_zero_iff : b.depth cs = 0 ↔ cs.count b.opening = cs.count b.closing := by
  simp only [depth]
  omega

end Brackets

namespace Builder

/-- With as many open nodes as there are brackets left to close, reading ends with a tree and no
open node. -/
theorem read_of_closes (hb : b.opening ≠ b.closing) {s : Builder} (hs : s.stack ≠ [])
    (h : b.Closes s.stack.length cs) : ∃ t, s.read b cs = .ok ⟨[], some t⟩ := by
  fun_induction s.read b cs with
  | case1 s =>
    have := h.depth_eq_zero
    have := List.length_pos_iff.mpr hs
    simp only [depth_nil] at *
    omega
  | case2 s c cs _ hblank ih =>
    exact ih hs (Closes.of_isFree_append (isFree_singleton.mpr (ne_of_isBlank hblank)) h)
  | case3 s cs _ hblank ih =>
    have htail := h.of_cons
    rw [depth_opening hb, ← List.takeWhile_append_dropWhile (p := b.isPlain) (l := cs)] at htail
    refine ih (by simp [begin]) ?_
    simpa [begin] using htail.of_isFree_append (isFree_takeWhile_isPlain cs)
  | case4 s cs _ fault hfinish hblank hopening =>
    obtain ⟨stack, built⟩ := s
    rcases stack with - | ⟨n, - | ⟨m, rest⟩⟩
    · exact absurd rfl hs
    · simp [finish] at hfinish
    · simp [finish] at hfinish
  | case5 s cs _ s' hfinish hblank hopening ih =>
    have htail := h.of_cons
    rw [depth_closing hb] at htail
    obtain ⟨stack, built⟩ := s
    rcases stack with - | ⟨n, - | ⟨m, rest⟩⟩
    · exact absurd rfl hs
    · -- The outermost node is finished, so nothing may follow.
      have hnil : cs = [] := Closes.eq_nil (by simpa using htail)
      simp only [finish, Except.ok.injEq] at hfinish
      subst hnil hfinish
      exact ⟨n.close, by simp⟩
    · simp only [finish, Except.ok.injEq] at hfinish
      subst hfinish
      refine ih (by simp) ?_
      convert htail using 1
      simp only [List.length_cons]
      omega
  | case6 s c cs _ hblank hopening hclosing fault hword =>
    obtain ⟨- | ⟨n, rest⟩, built⟩ := s
    · exact absurd rfl hs
    · simp [addWord] at hword
  | case7 s c cs _ hblank hopening hclosing s' hword ih =>
    obtain ⟨- | ⟨n, rest⟩, built⟩ := s
    · exact absurd rfl hs
    · simp only [addWord, Except.ok.injEq] at hword
      subst hword
      have htail := Closes.of_isFree_append (isFree_singleton.mpr ⟨hopening, hclosing⟩) h
      rw [← List.takeWhile_append_dropWhile (p := b.isPlain) (l := cs)] at htail
      exact ih (by simp) (htail.of_isFree_append (isFree_takeWhile_isPlain cs))

/-- A bracketing builds a tree. -/
theorem exists_read_of_isBracketing (hb : b.opening ≠ b.closing) (h : b.IsBracketing cs) :
    ∃ t, start.read b cs = .ok ⟨[], some t⟩ := by
  obtain ⟨rest, rfl, hrest⟩ := h.eq_cons hb
  rw [read]
  simp only [b.opening_visible, Bool.false_eq_true, if_false, if_true]
  rw [← List.takeWhile_append_dropWhile (p := b.isPlain) (l := rest)] at hrest
  refine read_of_closes hb (by simp [begin]) ?_
  simpa [begin, start] using hrest.of_isFree_append (isFree_takeWhile_isPlain rest)

end Builder

namespace Tree

/-- Reading with brackets that differ. -/
theorem read_text (hb : b.opening ≠ b.closing) (s : String) :
    Tree.read (.text s) (.text b.text) = readChars b s.toList := by
  simp [Tree.read, readForTree_text, hb]

/-- Blanks, then a bracketing, then a text that leaves no bracket open: the tree is the one that
the bracketing builds. -/
theorem readChars_of_isBracketing (hb : b.opening ≠ b.closing) {blanks piece after : List Char}
    (hblanks : Text.allBlank blanks = true) (hpiece : b.IsBracketing piece)
    (hafter : b.depth after = 0) :
    ∃ t, Builder.start.read b piece = .ok ⟨[], some t⟩ ∧
      readChars b (blanks ++ (piece ++ after)) = ⟨afterEntries after, .ok t⟩ := by
  obtain ⟨t, ht⟩ := Builder.exists_read_of_isBracketing hb hpiece
  refine ⟨t, ht, ?_⟩
  obtain ⟨rest, rfl, hrest⟩ := hpiece.eq_cons hb
  have hfree := isFree_of_allBlank (b := b) hblanks
  have hcount : (blanks ++ (b.opening :: rest ++ after)).count b.opening =
      (blanks ++ (b.opening :: rest ++ after)).count b.closing := by
    rw [← depth_eq_zero_iff, depth_append, depth_append, hfree.depth_eq_zero,
      hpiece.depth_eq_zero, hafter]
    rfl
  have hpos : (blanks ++ (b.opening :: rest ++ after)).count b.opening ≠ 0 := by
    simp [List.count_append]
  have hother : ∀ c ∈ blanks, (c != b.opening && c != b.closing) = true := by
    intro c hc
    simpa using hfree c hc
  have hsplit := splitBalanced?_of_closes hb Nat.one_pos (by simpa using hrest) [b.opening] after
  simp only [List.reverse_singleton, List.singleton_append] at hsplit
  simp only [readChars, hcount, ne_eq, not_true_eq_false, if_false]
  rw [if_neg (hcount ▸ hpos), List.takeWhile_append_of_pos hother,
    List.dropWhile_append_of_pos hother]
  simp [hblanks, hsplit, ht]

/-- A bracketing is read as the tree that it builds, without an entry. -/
theorem readChars_bracketing (hb : b.opening ≠ b.closing) (h : b.IsBracketing cs) :
    ∃ t, Builder.start.read b cs = .ok ⟨[], some t⟩ ∧ readChars b cs = ⟨[], .ok t⟩ := by
  have hblank : Text.allBlank [] = true := rfl
  obtain ⟨t, hbuilt, ht⟩ := readChars_of_isBracketing hb hblank h depth_nil
  exact ⟨t, hbuilt, by simpa [afterEntries, Text.allBlank] using ht⟩

/-- A text without brackets is the label of a tree with nothing under it. -/
theorem readChars_of_isFree (h : b.IsFree cs) :
    readChars b cs = ⟨[], .ok (.node (String.ofList (Text.trim cs)) [])⟩ := by
  obtain ⟨hopening, hclosing⟩ := isFree_iff.mp h
  simp [readChars, hopening, hclosing]

/-- An accepted text with a bracket starts, behind blanks, with a bracketing, and what follows that
leaves no bracket open. -/
theorem exists_isBracketing_of_accepts (hb : b.opening ≠ b.closing) {blanks rest : List Char}
    (hblanks : Text.allBlank blanks = true) (h : b.Accepts (blanks ++ b.opening :: rest)) :
    ∃ inner after, rest = inner ++ after ∧ b.Closes 1 inner ∧ b.depth after = 0 := by
  have hdepth := depth_eq_zero_iff.mpr h.1
  rw [depth_append, (isFree_of_allBlank hblanks).depth_eq_zero, depth_cons,
    depth_opening hb] at hdepth
  have hsuffices : ((1 : Nat) : Int) + b.depth rest ≤ 0 := by omega
  obtain ⟨inner, after, rfl, hinner⟩ := exists_closes hb Nat.one_pos hsuffices
  refine ⟨inner, after, rfl, by simpa using hinner, ?_⟩
  have := hinner.depth_eq_zero
  rw [depth_append] at hdepth
  omega

/-- A text that is accepted is read. -/
theorem readChars_of_accepts (hb : b.opening ≠ b.closing) (h : b.Accepts cs) :
    ∃ t, (readChars b cs).result = .ok t := by
  rcases h.2 with hfree | ⟨blanks, rest, hblanks, rfl⟩
  · exact ⟨_, by rw [readChars_of_isFree hfree]⟩
  · obtain ⟨inner, after, rfl, hinner, hafter⟩ := exists_isBracketing_of_accepts hb hblanks h
    obtain ⟨t, -, ht⟩ := readChars_of_isBracketing hb hblanks (.of_closes hb hinner) hafter
    exact ⟨t, by rw [← List.cons_append, ht]⟩

/-- A text that is not accepted either has not as many closing as opening brackets or does not
start with an opening one, and this is what its fault says. -/
theorem readChars_of_not_accepts (h : ¬b.Accepts cs) :
    ∃ defect, (readChars b cs).result = .error (malformedTree b cs defect) ∧
      (defect = .unbalanced ∨ ∃ index, defect = .expected b.opening index) := by
  by_cases hcount : cs.count b.opening = cs.count b.closing
  · have hopening : cs.count b.opening ≠ 0 :=
      fun hzero => h ⟨hcount, .inl (isFree_iff.mpr ⟨hzero, hcount ▸ hzero⟩)⟩
    simp only [readChars, hcount, ne_eq, not_true_eq_false, if_false]
    rw [if_neg (hcount ▸ hopening)]
    have hdivide := List.takeWhile_append_dropWhile (p := fun c => c != b.opening && c != b.closing)
      (l := cs)
    split
    · next c rest hrest =>
      split
      · next hfirst =>
        rw [hrest, hfirst.1] at hdivide
        exact absurd ⟨hcount, .inr ⟨_, rest, hfirst.2, hdivide.symm⟩⟩ h
      · exact ⟨_, rfl, .inr ⟨_, rfl⟩⟩
    · next hnil =>
      rw [List.dropWhile_eq_nil_iff] at hnil
      have hmem := List.count_pos_iff.mp (Nat.pos_of_ne_zero hopening)
      simpa using hnil _ hmem
  · exact ⟨.unbalanced, by simp [readChars, hcount, Logged.fail], .inl rfl⟩

/-- A text that is read is accepted. -/
theorem accepts_of_readChars {t : Tree String} (h : (readChars b cs).result = .ok t) :
    b.Accepts cs := by
  by_contra hnot
  obtain ⟨defect, hfault, -⟩ := readChars_of_not_accepts hnot
  rw [hfault] at h
  exact nomatch h

/-- A text with a bracket that is read as a tree starts, behind blanks, with a bracketing that
builds this tree. -/
theorem exists_isBracketing_of_readChars (hb : b.opening ≠ b.closing) {t : Tree String}
    (hbracket : ¬b.IsFree cs) (h : (readChars b cs).result = .ok t) :
    ∃ blanks piece after, cs = blanks ++ (piece ++ after) ∧ Text.allBlank blanks = true ∧
      b.IsBracketing piece ∧ Builder.start.read b piece = .ok ⟨[], some t⟩ := by
  have haccepts := accepts_of_readChars h
  obtain ⟨blanks, rest, hblanks, rfl⟩ := haccepts.2.resolve_left hbracket
  obtain ⟨inner, after, rfl, hinner, hafter⟩ := exists_isBracketing_of_accepts hb hblanks haccepts
  have hpiece := IsBracketing.of_closes hb hinner
  obtain ⟨u, hbuilt, hu⟩ := readChars_of_isBracketing hb hblanks hpiece hafter
  rw [← List.cons_append, hu] at h
  cases h
  exact ⟨blanks, b.opening :: inner, after, rfl, hblanks, hpiece, hbuilt⟩

/-- A text is a tree exactly if it is accepted. Any other text is malformed, and the fault holds
the text with its numbers of brackets. The partner of the first bracket is always found, the builder
never looks for an open node where there is none, and it always ends with a tree. -/
theorem read_text_isOk_iff (hb : b.opening ≠ b.closing) (s : String) :
    ((∃ t, (Tree.read (.text s) (.text b.text)).result = .ok t) ↔ b.Accepts s.toList) ∧
    (¬b.Accepts s.toList → ∃ defect,
      (Tree.read (.text s) (.text b.text)).result =
        .error (.malformed
          ⟨.text s, s.toList.count b.opening, s.toList.count b.closing, defect⟩) ∧
      (defect = .unbalanced ∨ ∃ index, defect = .expected b.opening index)) ∧
    (∀ blanks rest, b.Accepts s.toList → Text.allBlank blanks = true →
      s.toList = blanks ++ b.opening :: rest →
      ∃ piece after t, splitBalanced? b 1 [b.opening] rest = some (piece, after) ∧
        Builder.start.read b piece = .ok ⟨[], some t⟩ ∧
        (Tree.read (.text s) (.text b.text)).result = .ok t) := by
  rw [read_text hb]
  refine ⟨⟨fun ⟨t, ht⟩ => ?_, readChars_of_accepts hb⟩, fun h => ?_, ?_⟩
  · by_contra h
    obtain ⟨defect, hfault, -⟩ := readChars_of_not_accepts h
    rw [hfault] at ht
    exact nomatch ht
  · obtain ⟨defect, hfault, hdefect⟩ := readChars_of_not_accepts h
    exact ⟨defect, by simpa [malformedTree] using hfault, hdefect⟩
  · intro blanks rest h hblanks hs
    rw [hs] at h ⊢
    obtain ⟨inner, after, rfl, hinner, hafter⟩ := exists_isBracketing_of_accepts hb hblanks h
    obtain ⟨t, hbuilt, ht⟩ := readChars_of_isBracketing hb hblanks (.of_closes hb hinner) hafter
    refine ⟨b.opening :: inner, after, t, ?_, hbuilt, by rw [← List.cons_append, ht]⟩
    exact splitBalanced?_of_closes hb Nat.one_pos (by simpa using hinner) [b.opening] after

/-- A text whose rest is not balanced is a tree all the same, if the numbers of brackets agree, and
one that starts with a closing bracket is none. -/
theorem read_stray_brackets :
    Brackets.round.opening ≠ Brackets.round.closing ∧
    (∃ t, (Tree.read (.text " (a))(") (.text Brackets.round.text)).result = .ok t) ∧
    ∃ defect, (Tree.read (.text ")(") (.text Brackets.round.text)).result =
      .error (.malformed ⟨.text ")(", 1, 1, defect⟩) := by
  have hb : Brackets.round.opening ≠ Brackets.round.closing := by decide
  have haccepts : Brackets.round.Accepts " (a))(".toList :=
    ⟨by decide, .inr ⟨[' '], ['a', ')', ')', '('], by decide, by decide⟩⟩
  have hrejects : ¬Brackets.round.Accepts ")(".toList := by
    rintro ⟨-, hfree | ⟨blanks, rest, hblanks, heq⟩⟩
    · exact absurd rfl (hfree ')' (by decide)).2
    · cases blanks with
      | nil => simp [Brackets.round] at heq
      | cons c blanks =>
        obtain ⟨rfl, -⟩ : ')' = c ∧ _ := by simpa using heq
        simp [Text.allBlank, Text.isBlank] at hblanks
  obtain ⟨defect, hfault, -⟩ := (read_text_isOk_iff hb ")(").2.1 hrejects
  exact ⟨hb, (read_text_isOk_iff hb " (a))(").1.mpr haccepts, defect, hfault⟩

end Tree

end PhraseStructure
