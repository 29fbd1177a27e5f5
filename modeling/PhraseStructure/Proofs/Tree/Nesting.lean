import PhraseStructure.Proofs.Tree.Acceptance
import PhraseStructure.Proofs.Tree.Token

/-!
# Reading a tree piece by piece

What tree a bracketed text is can be said without a stack, by recursion over the pieces of the text
(`Tree.ofPiece?`, `Tree.childrenIn?`, `Tree.nested?`): a child that starts with an opening bracket
is the text up to the partner of this bracket, and is read like the whole. Both readings see the
same tokens (`exists_holds`), and therefore the builder gives the same tree
(`Tree.nested_eq_some_of_read`).
-/

namespace PhraseStructure

open Brackets

variable {b : Brackets} {c : Char} {cs before piece after : List Char} {depth : Nat}

/-- A text is divided, and nothing of it is lost. -/
theorem append_of_splitBalanced? (h : splitBalanced? b depth before cs = some (piece, after)) :
    piece ++ after = before.reverse ++ cs := by
  fun_induction splitBalanced? b depth before cs with
  | case1 => exact nomatch h
  | case2 depth before cs ih => simpa using ih h
  | case3 depth before cs hopening hdepth =>
    cases h
    simp
  | case4 depth before cs hopening hdepth ih => simpa using ih h
  | case5 depth before c cs hopening hclosing ih => simpa using ih h

/-- The part in front holds more than what precedes the text. -/
theorem length_lt_of_splitBalanced? (h : splitBalanced? b depth before cs = some (piece, after)) :
    before.length < piece.length := by
  fun_induction splitBalanced? b depth before cs with
  | case1 => exact nomatch h
  | case2 depth before cs ih => exact Nat.lt_of_succ_lt (ih h)
  | case3 depth before cs hopening hdepth =>
    cases h
    simp
  | case4 depth before cs hopening hdepth ih => exact Nat.lt_of_succ_lt (ih h)
  | case5 depth before c cs hopening hclosing ih => exact Nat.lt_of_succ_lt (ih h)

/-- Both parts of a text are no longer than the text, and the second one is shorter. -/
theorem length_le_of_splitBalanced? (h : splitBalanced? b depth [c] cs = some (piece, after)) :
    piece.length ≤ (c :: cs).length ∧ after.length < (c :: cs).length := by
  have happend := congrArg List.length (append_of_splitBalanced? h)
  have hpiece := length_lt_of_splitBalanced? h
  simp only [List.length_append, List.length_reverse, List.length_cons, List.length_nil] at *
  omega

namespace Tree

mutual

/-- The tree that a piece of text between a bracket and its partner is. Directly behind the bracket
stands the label, which may be empty. -/
def ofPiece? (b : Brackets) : List Char → Option (Tree String)
  | [] => none
  | c :: cs =>
      have _hle : (cs.dropWhile b.isPlain).length ≤ cs.length :=
        (List.dropWhile_suffix b.isPlain).length_le
      if c = b.opening then do
        let children ← childrenIn? b (cs.dropWhile b.isPlain)
        return node (String.ofList (cs.takeWhile b.isPlain)) children
      else none
termination_by cs => 2 * cs.length
decreasing_by
  simp only [List.length_cons]
  omega

/-- The trees in a text that ends with the bracket that closes their node: blanks are skipped, the
piece between a bracket and its partner is a tree again, and any other run of characters up to a
blank or a bracket is a leaf. -/
def childrenIn? (b : Brackets) : List Char → Option (List (Tree String))
  | [] => none
  | c :: cs =>
      have _hle : (cs.dropWhile b.isPlain).length ≤ cs.length :=
        (List.dropWhile_suffix b.isPlain).length_le
      if Text.isBlank c then childrenIn? b cs
      else if c = b.closing then
        if cs.isEmpty then some [] else none
      else if c = b.opening then
        match _h : splitBalanced? b 1 [c] cs with
        | none => none
        | some (piece, after) => do
            have _hshorter := length_le_of_splitBalanced? _h
            let child ← ofPiece? b piece
            let others ← childrenIn? b after
            return child :: others
      else do
        let others ← childrenIn? b (cs.dropWhile b.isPlain)
        return leaf (String.ofList (c :: cs.takeWhile b.isPlain)) :: others
termination_by cs => 2 * cs.length + 1
decreasing_by
  all_goals simp only [List.length_cons] at *
  all_goals omega

end

/-- The tree that a text with a bracket is. Its piece starts with the first character that is not
blank; what follows the piece does not matter. -/
def nested? (b : Brackets) (cs : List Char) : Option (Tree String) :=
  match Text.trimStart cs with
  | [] => none
  | c :: rest => do
      let (piece, _) ← splitBalanced? b 1 [c] rest
      ofPiece? b piece

/-! ### The same tokens -/

/-- A text that ends with the bracket that closes a node holds the trees under this node: the
recursion finds these trees, and their tokens are those of the text, whatever follows. -/
structure Holds (b : Brackets) (cs : List Char) (ts : List (Tree String)) : Prop where
  childrenIn?_eq : childrenIn? b cs = some ts
  scan_append : ∀ rest, Token.scan b (cs ++ rest) = tokensAll ts ++ .closing :: Token.scan b rest

variable {inner : List Char} {children ts : List (Tree String)}

/-- Behind the label, a piece holds the trees under its node. -/
theorem ofPiece?_cons (h : childrenIn? b (inner.dropWhile b.isPlain) = some children) :
    ofPiece? b (b.opening :: inner) =
      some (node (String.ofList (inner.takeWhile b.isPlain)) children) := by
  simp [ofPiece?, h]

/-- The piece that starts with a bracket is read by itself. -/
theorem childrenIn?_opening (hb : b.opening ≠ b.closing) {child : Tree String}
    (hsplit : splitBalanced? b 1 [b.opening] cs = some (piece, after))
    (hpiece : ofPiece? b piece = some child) (hafter : childrenIn? b after = some ts) :
    childrenIn? b (b.opening :: cs) = some (child :: ts) := by
  rw [childrenIn?]
  simp only [b.opening_visible, hb, Bool.false_eq_true, if_false, if_true]
  split
  · next hnone => exact nomatch hsplit.symm.trans hnone
  · next hsome =>
    cases hsplit.symm.trans hsome
    simp [hpiece, hafter]

/-- Behind a label or a word in a text that is not over there is a blank or a bracket. -/
theorem stops_dropWhile_append (h : cs.dropWhile b.isPlain ≠ []) (rest : List Char) :
    Token.Stops b (cs.dropWhile b.isPlain ++ rest) := by
  obtain ⟨c, cs', hcs⟩ := List.exists_cons_of_ne_nil h
  rw [hcs, List.cons_append, Token.stops_cons_iff, ← Bool.not_eq_true]
  have hhead := List.head_dropWhile_not b.isPlain h
  simpa [hcs] using hhead

namespace Holds

/-- The closing bracket alone closes a node with nothing under it. -/
theorem closing (hb : b.opening ≠ b.closing) : Holds b [b.closing] [] where
  childrenIn?_eq := by simp [childrenIn?, b.closing_visible]
  scan_append rest := by simpa [tokensAll] using Token.scan_closing hb rest

/-- A blank is skipped. -/
theorem blank (hc : Text.isBlank c = true) (h : Holds b cs ts) : Holds b (c :: cs) ts where
  childrenIn?_eq := by simpa [childrenIn?, hc] using h.childrenIn?_eq
  scan_append rest := by rw [List.cons_append, Token.scan_blank hc, h.scan_append]

/-- A run of other characters is a leaf in front of the trees that follow. -/
theorem word (hc : b.isPlain c = true) (hne : cs.dropWhile b.isPlain ≠ [])
    (h : Holds b (cs.dropWhile b.isPlain) ts) :
    Holds b (c :: cs) (leaf (String.ofList (c :: cs.takeWhile b.isPlain)) :: ts) where
  childrenIn?_eq := by
    obtain ⟨hblank, hopening, hclosing⟩ := isPlain_iff.mp hc
    simp [childrenIn?, hblank, hopening, hclosing, h.childrenIn?_eq]
  scan_append rest := by
    have hplain : ∀ c' ∈ c :: cs.takeWhile b.isPlain, b.isPlain c' = true :=
      List.forall_mem_cons.mpr ⟨hc, fun _ hc' => List.mem_takeWhile_imp hc'⟩
    have hsplit : c :: cs ++ rest =
        (c :: cs.takeWhile b.isPlain) ++ (cs.dropWhile b.isPlain ++ rest) := by
      rw [List.cons_append, List.cons_append, ← List.append_assoc, List.takeWhile_append_dropWhile]
    rw [hsplit, Token.scan_word hplain (List.cons_ne_nil _ _) (stops_dropWhile_append hne rest),
      h.scan_append]
    simp [tokensAll, tokens]

/-- The tokens of the node, when its label and its bracket stand in front. -/
theorem scan_piece (hne : inner.dropWhile b.isPlain ≠ [])
    (h : Holds b (inner.dropWhile b.isPlain) children) (rest : List Char) :
    Token.scan b (b.opening :: (inner ++ rest)) =
      tokens (node (String.ofList (inner.takeWhile b.isPlain)) children) ++ Token.scan b rest := by
  have hlabel : ∀ c ∈ inner.takeWhile b.isPlain, b.isPlain c = true :=
    fun _ hc => List.mem_takeWhile_imp hc
  have hsplit : inner ++ rest =
      inner.takeWhile b.isPlain ++ (inner.dropWhile b.isPlain ++ rest) := by
    rw [← List.append_assoc, List.takeWhile_append_dropWhile]
  rw [hsplit, Token.scan_opening hlabel (stops_dropWhile_append hne rest), h.scan_append]
  simp [tokens]

/-- A piece between a bracket and its partner is a tree in front of the trees that follow. -/
theorem opening (hb : b.opening ≠ b.closing) (hinner : b.Closes 1 inner)
    (hne : inner.dropWhile b.isPlain ≠ [])
    (hchildren : Holds b (inner.dropWhile b.isPlain) children) (h : Holds b after ts) :
    Holds b (b.opening :: (inner ++ after))
      (node (String.ofList (inner.takeWhile b.isPlain)) children :: ts) where
  childrenIn?_eq := by
    have hsplit := splitBalanced?_of_closes hb Nat.one_pos (by simpa using hinner) [b.opening] after
    rw [List.reverse_singleton, List.singleton_append] at hsplit
    exact childrenIn?_opening hb hsplit (ofPiece?_cons hchildren.childrenIn?_eq) h.childrenIn?_eq
  scan_append rest := by
    rw [List.cons_append, List.append_assoc, hchildren.scan_piece hne, h.scan_append, tokensAll,
      List.append_assoc]

end Holds

/-- Behind a label or a word, the text that closes the bracket goes on. -/
theorem closes_dropWhile_isPlain (h : b.Closes 1 cs) : b.Closes 1 (cs.dropWhile b.isPlain) := by
  rw [← List.takeWhile_append_dropWhile (p := b.isPlain) (l := cs)] at h
  exact h.of_isFree_append (isFree_takeWhile_isPlain cs)

/-- Behind a second opening bracket stands the text up to its partner, and behind this the text that
closes the first one. -/
theorem exists_closes_of_opening (hb : b.opening ≠ b.closing) (h : b.Closes 1 (b.opening :: cs)) :
    ∃ inner after, cs = inner ++ after ∧ b.Closes 1 inner ∧ b.Closes 1 after := by
  have htail := h.of_cons
  rw [depth_opening hb] at htail
  have hsuffices : ((1 : Nat) : Int) + b.depth cs ≤ 0 := by
    have := htail.depth_eq_zero
    omega
  obtain ⟨inner, after, rfl, hinner⟩ := exists_closes hb Nat.one_pos hsuffices
  have hdepth := hinner.depth_eq_zero
  have hafter := htail.of_append
  rw [show (1 : Int) + 1 + b.depth inner = 1 by omega] at hafter
  exact ⟨inner, after, rfl, hinner, hafter⟩

/-- A text that closes one open bracket with its last character holds trees. -/
theorem exists_holds (hb : b.opening ≠ b.closing) (h : b.Closes 1 cs) : ∃ ts, Holds b cs ts := by
  induction hlength : cs.length using Nat.strong_induction_on generalizing cs with
  | _ n ih =>
  subst hlength
  have hle (xs : List Char) : (xs.dropWhile b.isPlain).length ≤ xs.length :=
    (List.dropWhile_suffix b.isPlain).length_le
  rcases cs with - | ⟨c, cs⟩
  · exact absurd rfl (h.ne_nil Int.one_pos)
  · by_cases hclosing : c = b.closing
    · subst hclosing
      have htail := h.of_cons
      rw [depth_closing hb] at htail
      obtain rfl : cs = [] := Closes.eq_nil (by simpa using htail)
      exact ⟨[], .closing hb⟩
    by_cases hopening : c = b.opening
    · subst hopening
      obtain ⟨inner, after, rfl, hinner, hafter⟩ := exists_closes_of_opening hb h
      have hlabel := closes_dropWhile_isPlain hinner
      have hshort : (inner.dropWhile b.isPlain).length < (b.opening :: (inner ++ after)).length ∧
          after.length < (b.opening :: (inner ++ after)).length := by
        have := hle inner
        simp only [List.length_cons, List.length_append]
        omega
      obtain ⟨children, hchildren⟩ := ih _ hshort.1 hlabel rfl
      obtain ⟨ts, hts⟩ := ih _ hshort.2 hafter rfl
      exact ⟨_, .opening hb hinner (hlabel.ne_nil Int.one_pos) hchildren hts⟩
    · have hrest := Closes.of_isFree_append (isFree_singleton.mpr ⟨hopening, hclosing⟩) h
      by_cases hblank : Text.isBlank c = true
      · obtain ⟨ts, hts⟩ := ih _ (Nat.lt_succ_self _) hrest rfl
        exact ⟨ts, hts.blank hblank⟩
      · have hc : b.isPlain c = true := isPlain_iff.mpr ⟨by simpa using hblank, hopening, hclosing⟩
        have hword := closes_dropWhile_isPlain hrest
        have hshort : (cs.dropWhile b.isPlain).length < (c :: cs).length :=
          Nat.lt_succ_of_le (hle cs)
        obtain ⟨ts, hts⟩ := ih _ hshort hword rfl
        exact ⟨_, hts.word hc (hword.ne_nil Int.one_pos)⟩

/-- The tokens of a bracketing are those of the node that it is by recursion. -/
theorem exists_scan_eq_tokens (hb : b.opening ≠ b.closing) (h : b.IsBracketing piece) :
    ∃ label children, ofPiece? b piece = some (node label children) ∧
      Token.scan b piece = (node label children).tokens := by
  obtain ⟨inner, rfl, hinner⟩ := h.eq_cons hb
  have hlabel := closes_dropWhile_isPlain hinner
  obtain ⟨children, hchildren⟩ := exists_holds hb hlabel
  refine ⟨_, _, ofPiece?_cons hchildren.childrenIn?_eq, ?_⟩
  have hscan := hchildren.scan_piece (hlabel.ne_nil Int.one_pos) []
  rwa [List.append_nil, Token.scan_nil, List.append_nil] at hscan

/-- A bracketing is read alike by the recursion and by the builder. -/
theorem exists_ofPiece? (hb : b.opening ≠ b.closing) (h : b.IsBracketing piece) :
    ∃ t, ofPiece? b piece = some t ∧ Builder.start.read b piece = .ok ⟨[], some t⟩ := by
  obtain ⟨label, children, hpiece, hscan⟩ := exists_scan_eq_tokens hb h
  exact ⟨_, hpiece, by rw [Builder.read_eq_takeAll, hscan, Builder.takeAll_tokens_node]⟩

/-- A text with a bracket that is read as a tree is this tree by recursion over its pieces. -/
theorem nested_eq_some_of_read (hb : b.opening ≠ b.closing) {s : String} {t : Tree String}
    (hbracket : ¬b.IsFree s.toList) (h : (Tree.read (.text s) (.text b.text)).result = .ok t) :
    nested? b s.toList = some t := by
  rw [read_text hb] at h
  have haccepts := accepts_of_readChars h
  obtain ⟨blanks, rest, hblanks, hs⟩ := haccepts.2.resolve_left hbracket
  rw [hs] at h haccepts ⊢
  obtain ⟨inner, after, rfl, hinner, hafter⟩ := exists_isBracketing_of_accepts hb hblanks haccepts
  have hpiece := IsBracketing.of_closes hb hinner
  obtain ⟨u, hu, hbuilt⟩ := exists_ofPiece? hb hpiece
  obtain ⟨v, hbuilt', hv⟩ := readChars_of_isBracketing hb hblanks hpiece hafter
  obtain rfl : u = v := by simpa using hbuilt.symm.trans hbuilt'
  rw [← List.cons_append, hv] at h
  cases h
  have htrim : Text.trimStart (blanks ++ b.opening :: (inner ++ after)) =
      b.opening :: (inner ++ after) := by
    rw [Text.trimStart, List.dropWhile_append_of_pos (List.all_eq_true.mp hblanks)]
    simp [b.opening_visible]
  have hsplit := splitBalanced?_of_closes hb Nat.one_pos (by simpa using hinner) [b.opening] after
  rw [List.reverse_singleton, List.singleton_append] at hsplit
  simp [nested?, htrim, hsplit, hu]

/-- Brackets without a space between them, an empty label, and a text that goes on. -/
theorem nested_eq_some_adjacent :
    Brackets.round.opening ≠ Brackets.round.closing ∧
    ¬Brackets.round.IsFree " ((A a)(B)b) )(".toList ∧
    (Tree.read (.text " ((A a)(B)b) )(") (.text Brackets.round.text)).result =
      .ok (node "" [node "A" [leaf "a"], node "B" [], leaf "b"]) ∧
    nested? Brackets.round " ((A a)(B)b) )(".toList =
      some (node "" [node "A" [leaf "a"], node "B" [], leaf "b"]) := by
  have hb : Brackets.round.opening ≠ Brackets.round.closing := by decide
  have hbracket : ¬Brackets.round.IsFree " ((A a)(B)b) )(".toList :=
    fun hfree => absurd rfl (hfree '(' (by decide)).1
  have haccepts : Brackets.round.Accepts " ((A a)(B)b) )(".toList :=
    ⟨by decide, .inr ⟨[' '], "(A a)(B)b) )(".toList, by decide, by decide⟩⟩
  have hvalue : nested? Brackets.round " ((A a)(B)b) )(".toList =
      some (node "" [node "A" [leaf "a"], node "B" [], leaf "b"]) := by cbv
  obtain ⟨t, ht⟩ := readChars_of_accepts hb haccepts
  rw [← read_text hb] at ht
  have hnested := nested_eq_some_of_read hb hbracket ht
  obtain rfl : _ = t := Option.some.inj (hvalue.symm.trans hnested)
  exact ⟨hb, hbracket, ht, hnested⟩

end Tree

end PhraseStructure
