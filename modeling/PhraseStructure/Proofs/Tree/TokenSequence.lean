import PhraseStructure.Proofs.Tree.Nesting
import PhraseStructure.Proofs.Tree.RoundTrip
import PhraseStructure.Proofs.Treebank.Division

/-!
# Which texts are read as the same tree

The tokens of a text are its characters that are not blank, divided into runs
(`Token.flatMap_chars_scan`). A text with a bracket is read as the node that has the tokens of its
first bracketing (`exists_firstBracketing_of_read`), and a node is determined by its tokens
(`eq_of_tokens_eq`). Hence two texts are read as the same tree exactly if their first bracketings
have the same tokens, and the tree is written with these (`read_eq_iff_scan_eq`).
-/

namespace PhraseStructure

open Brackets

variable {b : Brackets} {cs piece piece' : List Char}

namespace Token

/-- The characters of a token. -/
def chars (b : Brackets) : Token → List Char
  | opening label => b.opening :: label
  | word text => text
  | closing => [b.closing]

/-- There are no blanks to be removed from a label or a word. -/
theorem removeBlanks_of_isPlain {word : List Char} (h : ∀ c ∈ word, b.isPlain c = true) :
    Text.removeBlanks word = word := by
  rw [Text.removeBlanks, List.filter_eq_self]
  intro c hc
  rw [(isPlain_iff.mp (h c hc)).1]
  rfl

/-- The characters behind a word, when the blanks are removed. -/
theorem removeBlanks_takeWhile_append (b : Brackets) (cs : List Char) :
    cs.takeWhile b.isPlain ++ Text.removeBlanks (cs.dropWhile b.isPlain) =
      Text.removeBlanks cs := by
  have hplain : ∀ c ∈ cs.takeWhile b.isPlain, b.isPlain c = true :=
    fun _ hc => List.mem_takeWhile_imp hc
  rw [← removeBlanks_of_isPlain hplain, ← Text.removeBlanks_append, List.takeWhile_append_dropWhile]

/-- The tokens of a text hold each of its characters that are not blank, in order. -/
theorem flatMap_chars_scan (b : Brackets) (cs : List Char) :
    (scan b cs).flatMap (chars b) = Text.removeBlanks cs := by
  have hcons : ∀ c cs, Text.isBlank c = false →
      Text.removeBlanks (c :: cs) = c :: Text.removeBlanks cs := by
    intro c cs hc
    rw [Text.removeBlanks, List.filter_cons_of_pos (by simp [hc])]
    rfl
  fun_induction scan b cs with
  | case1 => rfl
  | case2 c cs _ hblank ih =>
    rw [ih, Text.removeBlanks, Text.removeBlanks, List.filter_cons_of_neg (by simp [hblank])]
  | case3 cs _ hblank ih =>
    rw [List.flatMap_cons, ih, chars, List.cons_append, removeBlanks_takeWhile_append,
      hcons _ _ b.opening_visible]
  | case4 cs _ hblank hopening ih =>
    rw [List.flatMap_cons, ih, chars, List.singleton_append, hcons _ _ b.closing_visible]
  | case5 c cs _ hblank hopening hclosing ih =>
    rw [List.flatMap_cons, ih, chars, List.cons_append, removeBlanks_takeWhile_append,
      hcons _ _ (by simpa using hblank)]

end Token

/-- The text starts, behind text without brackets, with the bracketing. -/
def Brackets.IsFirstBracketing (b : Brackets) (cs piece : List Char) : Prop :=
  ∃ gap after, cs = gap ++ (piece ++ after) ∧ b.IsFree gap ∧ b.IsBracketing piece

/-- A text has one first bracketing at most. -/
theorem Brackets.IsFirstBracketing.unique (hb : b.opening ≠ b.closing)
    (h : b.IsFirstBracketing cs piece) (h' : b.IsFirstBracketing cs piece') : piece = piece' := by
  obtain ⟨gap, after, rfl, hgap, hpiece⟩ := h
  obtain ⟨gap', after', heq, hgap', hpiece'⟩ := h'
  have hcut := Treebank.TopLevel.dropWhile_append hgap
    (Treebank.TopLevel.not_isFree_of_isBracketing hb hpiece after)
  rw [heq, Treebank.TopLevel.dropWhile_append hgap'
    (Treebank.TopLevel.not_isFree_of_isBracketing hb hpiece' after')] at hcut
  exact (hpiece'.eq_of_append_eq hpiece hcut).symm

namespace Tree

variable {s t : Tree String}

/-- A node is determined by its tokens. -/
theorem eq_of_tokens_eq (hs : s.isNode = true) (ht : t.isNode = true) (h : s.tokens = t.tokens) :
    s = t := by
  cases s with
  | leaf word => cases hs
  | node label children =>
    cases t with
    | leaf word => cases ht
    | node label' children' =>
      have hbuilt := Builder.takeAll_tokens_node label children
      rw [h, Builder.takeAll_tokens_node] at hbuilt
      cases hbuilt
      rfl

/-- What is built from a bracketing is a readable node that has its tokens. -/
theorem node_of_isBracketing (hb : b.opening ≠ b.closing) (hpiece : b.IsBracketing piece)
    (hbuilt : Builder.start.read b piece = .ok ⟨[], some t⟩) :
    t.isNode = true ∧ t.IsReadable b ∧ Token.scan b piece = t.tokens := by
  have hreadable := ((Builder.IsReadable.start b).read hbuilt).built t rfl
  obtain ⟨label, children, -, hscan⟩ := exists_scan_eq_tokens hb hpiece
  rw [Builder.read_eq_takeAll, hscan, Builder.takeAll_tokens_node] at hbuilt
  cases hbuilt
  exact ⟨rfl, hreadable, hscan⟩

/-- What is read from a bracketing is a readable node that has its tokens. -/
theorem node_of_read (hb : b.opening ≠ b.closing) (hpiece : b.IsBracketing piece)
    (hread : Tree.read (.text (String.ofList piece)) (.text b.text) = ⟨[], .ok t⟩) :
    t.isNode = true ∧ t.IsReadable b ∧ Token.scan b piece = t.tokens := by
  obtain ⟨u, hbuilt, hu⟩ := readChars_bracketing hb hpiece
  rw [read_text hb, String.toList_ofList, hu] at hread
  cases hread
  exact node_of_isBracketing hb hpiece hbuilt

/-- A text with a bracket is read as a readable node that has the tokens of its first bracketing. -/
theorem exists_firstBracketing_of_read (hb : b.opening ≠ b.closing) (hbracket : ¬b.IsFree cs)
    (h : (readChars b cs).result = .ok t) :
    ∃ piece, b.IsFirstBracketing cs piece ∧ t.isNode = true ∧ t.IsReadable b ∧
      Token.scan b piece = t.tokens := by
  obtain ⟨blanks, piece, after, rfl, hblanks, hpiece, hbuilt⟩ :=
    exists_isBracketing_of_readChars hb hbracket h
  exact ⟨piece, ⟨blanks, after, rfl, isFree_of_allBlank hblanks, hpiece⟩,
    node_of_isBracketing hb hpiece hbuilt⟩

/-- Two texts with brackets are read as the same tree exactly if their first bracketings have the
same tokens, and the tree is written as a bracketing with these tokens. Blanks, and what stands
behind the first bracketing, make no difference. -/
theorem read_eq_iff_scan_eq (hb : b.opening ≠ b.closing) {s₁ s₂ : String} {t₁ t₂ : Tree String}
    (hs₁ : ¬b.IsFree s₁.toList) (hs₂ : ¬b.IsFree s₂.toList)
    (hread₁ : (Tree.read (.text s₁) (.text b.text)).result = .ok t₁)
    (hread₂ : (Tree.read (.text s₂) (.text b.text)).result = .ok t₂) :
    ∃ piece₁ piece₂ w, (∀ piece, b.IsFirstBracketing s₁.toList piece ↔ piece = piece₁) ∧
      (∀ piece, b.IsFirstBracketing s₂.toList piece ↔ piece = piece₂) ∧
      (t₁ = t₂ ↔ Token.scan b piece₁ = Token.scan b piece₂) ∧
      t₁.written (.text b.text) = .ok w ∧ b.IsBracketing w.toList ∧
      Token.scan b w.toList = Token.scan b piece₁ := by
  rw [read_text hb] at hread₁ hread₂
  obtain ⟨piece₁, hfirst₁, hnode₁, hreadable₁, hscan₁⟩ :=
    exists_firstBracketing_of_read hb hs₁ hread₁
  obtain ⟨piece₂, hfirst₂, hnode₂, -, hscan₂⟩ := exists_firstBracketing_of_read hb hs₂ hread₂
  have honly : ∀ {cs piece : List Char}, b.IsFirstBracketing cs piece →
      ∀ piece', b.IsFirstBracketing cs piece' ↔ piece' = piece :=
    fun hfirst piece' => ⟨fun h => h.unique hb hfirst, fun heq => heq ▸ hfirst⟩
  refine ⟨piece₁, piece₂, _, honly hfirst₁, honly hfirst₂, ?_, written_text b t₁, ?_, ?_⟩
  · rw [hscan₁, hscan₂]
    exact ⟨congrArg tokens, eq_of_tokens_eq hnode₁ hnode₂⟩
  · cases t₁ with
    | leaf word => cases hnode₁
    | node label children =>
      exact isBracketing_flat_node hb hreadable₁.1 (isBalanced_flatAll hb children hreadable₁.2)
  · rw [scan_flat_eq_tokens hb hreadable₁, hscan₁]

/-- Two layouts of a tree, one without any blank that could be left out and one with more blanks. -/
theorem read_eq_iff_scan_eq_layouts :
    Brackets.round.opening ≠ Brackets.round.closing ∧
    ∃ t, (Tree.read (.text "(S(A a)b)") (.text Brackets.round.text)).result = .ok t ∧
      (Tree.read (.text " (S (A\ta ) b )\n") (.text Brackets.round.text)).result = .ok t ∧
      ∃ piece₁ piece₂, Brackets.round.IsFirstBracketing "(S(A a)b)".toList piece₁ ∧
        Brackets.round.IsFirstBracketing " (S (A\ta ) b )\n".toList piece₂ ∧
        Token.scan Brackets.round piece₁ = Token.scan Brackets.round piece₂ := by
  have hb : Brackets.round.opening ≠ Brackets.round.closing := by decide
  have hs₁ : ¬Brackets.round.IsFree "(S(A a)b)".toList :=
    fun hfree => absurd rfl (hfree '(' (by decide)).1
  have hs₂ : ¬Brackets.round.IsFree " (S (A\ta ) b )\n".toList :=
    fun hfree => absurd rfl (hfree '(' (by decide)).1
  have hread₁ : (Tree.read (.text "(S(A a)b)") (.text Brackets.round.text)).result =
      .ok (node "S" [node "A" [leaf "a"], leaf "b"]) := by cbv
  have hread₂ : (Tree.read (.text " (S (A\ta ) b )\n") (.text Brackets.round.text)).result =
      .ok (node "S" [node "A" [leaf "a"], leaf "b"]) := by cbv
  obtain ⟨piece₁, piece₂, w, hfirst₁, hfirst₂, hsame, -⟩ :=
    read_eq_iff_scan_eq hb hs₁ hs₂ hread₁ hread₂
  exact ⟨hb, _, hread₁, hread₂, piece₁, piece₂, (hfirst₁ piece₁).mpr rfl, (hfirst₂ piece₂).mpr rfl,
    hsame.mp rfl⟩

end Tree

end PhraseStructure
