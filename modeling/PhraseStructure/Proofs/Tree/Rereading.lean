import PhraseStructure.Proofs.Tree.Layout

/-!
# Reading any text of a tree

The labels and the leaves of a tree may be any texts, with blanks, line feeds and brackets in them.
What is written for such a tree is in general not read back as that tree, and it need not be the
text of a tree at all. But it makes no difference whether the tree was written on a single line or
broken over lines (`read_styles_agree`): the partner of the first bracket stands behind the same
characters that are not blank (`Closes.of_isRespaced`), and up to there the tokens are the same.
-/

namespace PhraseStructure

open Brackets Text

variable {b : Brackets} {cs ds inner : List Char}

namespace Brackets

/-- A text that closes one bracket is balanced up to its last character, which is that bracket. -/
theorem Closes.exists_inner (h : b.Closes 1 cs) :
    ∃ inner, cs = inner ++ [b.closing] ∧ b.IsBalanced inner := by
  obtain ⟨inner, last, rfl⟩ : ∃ inner last, cs = inner ++ [last] := by
    have hne : cs ≠ [] := h.ne_nil (by omega)
    exact ⟨cs.dropLast, cs.getLast hne, (List.dropLast_concat_getLast hne).symm⟩
  have hnonneg : ∀ front, front <+: inner → 0 ≤ b.depth front := by
    intro front hfront
    have hproper : front ≠ inner ++ [last] := by
      intro heq
      have hle := hfront.length_le
      rw [heq, List.length_append, List.length_singleton] at hle
      omega
    have hpos := h.depth_pos front (hfront.trans (List.prefix_append inner [last])) hproper
    omega
  have hend : 1 + (b.depth inner + b.depth [last]) = 0 := by
    rw [← depth_append]
    exact h.depth_eq_zero
  have hinner := hnonneg inner List.prefix_rfl
  have hlast : last = b.closing := by
    by_contra hne
    have hdepth : 0 ≤ b.depth [last] := by simp [depth, hne]
    omega
  subst hlast
  have hclosing : -1 ≤ b.depth [b.closing] := by
    rw [depth, List.count_singleton_self]
    omega
  exact ⟨inner, rfl, by omega, hnonneg⟩

/-- The bracket is closed behind the same characters, whatever blanks are between them. -/
theorem Closes.of_isRespaced (hb : b.opening ≠ b.closing) (h : b.Closes 1 cs)
    (hcs : IsRespaced cs ds) : b.Closes 1 ds := by
  obtain ⟨inner, rfl, hinner⟩ := h.exists_inner
  obtain ⟨inner', last, rfl, hinner', hlast⟩ := hcs.of_append
  obtain ⟨tail, rfl, htail⟩ := hlast.of_cons b.closing_visible
  obtain rfl := htail.eq_nil
  have hbalanced : b.IsBalanced inner' := hinner.congr hinner'.removeBlanks_eq
  refine Closes.append hbalanced (by omega) (Closes.cons (by omega) ?_)
  rw [depth_closing hb]
  exact Closes.nil

/-- Respacing a text does not change its brackets. -/
theorem depth_of_isRespaced (h : IsRespaced cs ds) : b.depth ds = b.depth cs := by
  rw [← depth_removeBlanks, h.removeBlanks_eq, depth_removeBlanks]

/-- A text that starts with an opening bracket is accepted if it leaves no bracket open. -/
theorem accepts_opening_iff : b.Accepts (b.opening :: cs) ↔ b.depth (b.opening :: cs) = 0 := by
  rw [depth_eq_zero_iff]
  constructor
  · intro h
    exact h.1
  · intro h
    exact ⟨h, .inr ⟨[], cs, rfl, rfl⟩⟩

end Brackets

namespace Tree

/-- An unbalanced text is refused for the numbers of its brackets. -/
theorem readChars_unbalanced (h : b.depth cs ≠ 0) :
    readChars b cs = .fail (malformedTree b cs .unbalanced) := by
  have hcount : cs.count b.opening ≠ cs.count b.closing := by
    intro heq
    exact h (depth_eq_zero_iff.mpr heq)
  rw [readChars, if_pos hcount]

/-- A text that starts with an opening bracket and leaves none open is read as a tree, and as the
same tree with any other blanks. -/
theorem exists_readChars_of_isRespaced (hb : b.opening ≠ b.closing)
    (hdepth : b.depth (b.opening :: cs) = 0) (hcs : IsRespaced (b.opening :: cs) ds) :
    ∃ t, (readChars b (b.opening :: cs)).result = .ok t ∧ (readChars b ds).result = .ok t := by
  have hblanks : allBlank [] = true := rfl
  have haccepts : b.Accepts ([] ++ b.opening :: cs) := accepts_opening_iff.mpr hdepth
  obtain ⟨inner, after, rfl, hinner, hafter⟩ := exists_isBracketing_of_accepts hb hblanks haccepts
  obtain ⟨rest, rfl, hrest⟩ := hcs.of_cons b.opening_visible
  obtain ⟨inner', after', rfl, hinner', hafter'⟩ := hrest.of_append
  have hclosed : b.Closes 1 inner' := hinner.of_isRespaced hb hinner'
  have hopen : b.depth after' = 0 := by rw [depth_of_isRespaced hafter', hafter]
  obtain ⟨t, hbuilt, ht⟩ :=
    readChars_of_isBracketing hb hblanks (IsBracketing.of_closes hb hinner) hafter
  obtain ⟨t', hbuilt', ht'⟩ :=
    readChars_of_isBracketing hb hblanks (IsBracketing.of_closes hb hclosed) hopen
  have hscan : Token.scan b (b.opening :: inner') = Token.scan b (b.opening :: inner) :=
    Token.scan_isRespaced (.char b.opening hinner')
  have hsame : t' = t := by
    rw [Builder.read_eq_takeAll, hscan, ← Builder.read_eq_takeAll, hbuilt] at hbuilt'
    cases hbuilt'
    rfl
  subst hsame
  refine ⟨t', ?_, ?_⟩
  · exact congrArg Logged.result ht
  · exact congrArg Logged.result ht'

/-- Two texts are read as the same tree, or both are malformed because their closing brackets are
not as many as their opening ones. -/
def ReadAlike (b : Brackets) (s s' : String) : Prop :=
  (∃ t, (Tree.read (.text s) (.text b.text)).result = .ok t ∧
    (Tree.read (.text s') (.text b.text)).result = .ok t) ∨
  ((Tree.read (.text s) (.text b.text)).result =
      .error (malformedTree b s.toList .unbalanced) ∧
    (Tree.read (.text s') (.text b.text)).result =
      .error (malformedTree b s'.toList .unbalanced))

/-- Texts that start with an opening bracket and differ in their blanks are read alike. -/
theorem readAlike_of_isRespaced (hb : b.opening ≠ b.closing) {s s' : String}
    (hs : s.toList = b.opening :: cs) (hsame : IsRespaced s.toList s'.toList) :
    ReadAlike b s s' := by
  rw [ReadAlike, read_text hb, read_text hb]
  by_cases hdepth : b.depth s.toList = 0
  · left
    rw [hs] at hdepth hsame ⊢
    exact exists_readChars_of_isRespaced hb hdepth hsame
  · right
    have hdepth' : b.depth s'.toList ≠ 0 := by rwa [depth_of_isRespaced hsame]
    rw [readChars_unbalanced hdepth, readChars_unbalanced hdepth']
    exact ⟨rfl, rfl⟩

/-- However a tree is written, on a single line or broken over lines at any margin and with any
indent, it is read alike, whatever stands in its labels and leaves. It is read as a tree exactly if
they hold as many closing as opening brackets. -/
theorem read_styles_agree (hb : b.opening ≠ b.closing) (label : String)
    (children : List (Tree String)) (style : Style) :
    (style.Fits →
      style.render b (node label children) = .ok (style.write b (node label children))) ∧
    (∀ s', style.render b (node label children) = .ok s' →
      s' = style.write b (node label children)) ∧
    ∃ s, (node label children).written (.text b.text) = .ok s ∧
      ReadAlike b s (style.write b (node label children)) ∧
      ((∃ t, (Tree.read (.text s) (.text b.text)).result = .ok t) ↔ b.depth s.toList = 0) := by
  have hflat := toList_flat_node b label children
  refine ⟨render_of_fits b _, fun s' => eq_write_of_render, _, written_text b _,
    readAlike_of_isRespaced hb hflat (isRespaced_write b _ style), ?_⟩
  rw [read_text hb, hflat, ← accepts_opening_iff]
  constructor
  · rintro ⟨t, ht⟩
    exact accepts_of_readChars ht
  · exact readChars_of_accepts hb

/-- A leaf that closes the node it stands under, and a label that opens another one: what is left of
the tree is the same on a single line and on three lines. -/
theorem read_styles_agree_stray :
    Brackets.round.opening ≠ Brackets.round.closing ∧
    ∃ t, (Tree.read (.text "(S ) (A ())") (.text Brackets.round.text)).result = .ok t ∧
      (Tree.read (.text "(S\n  )\n  (A ())") (.text Brackets.round.text)).result = .ok t := by
  have hb : Brackets.round.opening ≠ Brackets.round.closing := by decide
  obtain ⟨-, -, s, hs, halike, hiff⟩ :=
    read_styles_agree hb "S" [leaf ")", node "A (" []] (.broken 0 0)
  have hline : flat Brackets.round.enclosure (node "S" [leaf ")", node "A (" []]) =
      "(S ) (A ())" := by decide +kernel
  have hbroken : Style.write Brackets.round (node "S" [leaf ")", node "A (" []]) (.broken 0 0) =
      "(S\n  )\n  (A ())" := by decide +kernel
  rw [written_text, hline] at hs
  obtain rfl := Except.ok.inj hs
  rw [hbroken] at halike
  refine ⟨hb, halike.resolve_right ?_⟩
  rintro ⟨hfault, -⟩
  obtain ⟨t, ht⟩ := hiff.mpr (by decide)
  cases ht.symm.trans hfault

end Tree

end PhraseStructure
