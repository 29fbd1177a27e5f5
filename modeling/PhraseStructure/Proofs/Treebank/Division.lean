import PhraseStructure.Proofs.Bracketing

/-!
# The bracketings of a text

A text consists of bracketings and of text without brackets between them (`Divides`), up to a
closing bracket that no bracket precedes which it could close, up to a bracket that is never closed,
or up to its end (`TopLevel`). The division is unique (`TopLevel.unique`), and how it ends can be
told from the depths at the places of the text (`TopLevel.ending_ne_complete_iff`).
-/

namespace PhraseStructure.Treebank

open Brackets

/-- Every place behind the first character of the text lies within the bracket that starts it. -/
structure IsOpen (b : Brackets) (cs : List Char) : Prop where
  starts : [b.opening] <+: cs
  depth_pos : ∀ front, front <+: cs → front ≠ [] → 0 < b.depth front

/-- The text consists of bracketings, with text without brackets before, between and behind them. -/
inductive Divides (b : Brackets) : List Char → List (List Char) → Prop
  | gap {cs : List Char} : b.IsFree cs → Divides b cs []
  | piece {gap piece rest : List Char} {pieces : List (List Char)} :
      b.IsFree gap → b.IsBracketing piece → Divides b rest pieces →
      Divides b (gap ++ (piece ++ rest)) (piece :: pieces)

/-- What follows the last bracketing at the top level of a text. -/
inductive Ending
  /-- There are no more brackets. -/
  | complete
  /-- There is a closing bracket where none is open. -/
  | unexpected
  /-- A bracket is opened and never closed. -/
  | unclosed
  deriving DecidableEq, Repr

/-- The text from where the division into bracketings ends. -/
def Ending.Holds (b : Brackets) : Ending → List Char → Prop
  | complete, cs => cs = []
  | unexpected, cs => ∃ rest, cs = b.closing :: rest
  | unclosed, cs => IsOpen b cs

/-- The bracketings at the top level of a text, in order, and what comes behind them. -/
def TopLevel (b : Brackets) (cs : List Char) (pieces : List (List Char)) (ending : Ending) : Prop :=
  ∃ front tail, cs = front ++ tail ∧ Divides b front pieces ∧ ending.Holds b tail

variable {b : Brackets} {cs gap piece : List Char} {pieces : List (List Char)} {ending : Ending}

namespace IsOpen

/-- A text is open behind its first bracket. -/
theorem singleton (hb : b.opening ≠ b.closing) : IsOpen b [b.opening] where
  starts := List.prefix_rfl
  depth_pos front hfront hne := by
    rcases List.prefix_cons_iff.mp hfront with rfl | ⟨rest, rfl, hrest⟩
    · exact absurd rfl hne
    · rw [List.prefix_nil.mp hrest, depth_opening hb]
      omega

/-- A text that is open has begun. -/
theorem ne_nil (h : IsOpen b cs) : cs ≠ [] := by
  rintro rfl
  simpa using h.starts

/-- One more character, as long as it does not close the bracket that starts the text. -/
theorem concat {c : Char} (h : IsOpen b cs) (hc : 0 < b.depth (cs ++ [c])) :
    IsOpen b (cs ++ [c]) where
  starts := List.prefix_append_of_prefix h.starts
  depth_pos front hfront hne := by
    rcases List.prefix_concat_iff.mp hfront with rfl | hfront
    · exact hc
    · exact h.depth_pos front hfront hne

/-- The bracket that closes the one that starts the text completes a bracketing. -/
theorem isBracketing (hb : b.opening ≠ b.closing) (h : IsOpen b cs) (hdepth : b.depth cs = 1) :
    b.IsBracketing (cs ++ [b.closing]) where
  starts := List.prefix_append_of_prefix h.starts
  depth_eq_zero := by
    rw [depth_append, depth_closing hb, hdepth]
    rfl
  depth_pos front hfront hnil hne := by
    rcases List.prefix_concat_iff.mp hfront with rfl | hfront
    · exact absurd rfl hne
    · exact h.depth_pos front hfront hnil

end IsOpen

namespace Divides

/-- Text without brackets may follow. -/
theorem append_gap (h : Divides b cs pieces) (hgap : b.IsFree gap) :
    Divides b (cs ++ gap) pieces := by
  induction h with
  | gap hcs => exact .gap (isFree_append.mpr ⟨hcs, hgap⟩)
  | piece hbefore hpiece _ ih =>
    rw [List.append_assoc, List.append_assoc]
    exact .piece hbefore hpiece ih

/-- A bracketing may follow. -/
theorem append_piece (h : Divides b cs pieces) (hpiece : b.IsBracketing piece) :
    Divides b (cs ++ piece) (pieces ++ [piece]) := by
  induction h with
  | gap hcs =>
    have hnone : b.IsFree [] := by simp [IsFree]
    simpa using Divides.piece hcs hpiece (.gap hnone)
  | piece hbefore hfirst _ ih =>
    rw [List.append_assoc, List.append_assoc]
    exact .piece hbefore hfirst ih

/-- A text that consists of bracketings is balanced. -/
theorem isBalanced (h : Divides b cs pieces) : b.IsBalanced cs := by
  induction h with
  | gap hcs => exact .of_isFree hcs
  | piece hbefore hpiece _ ih => exact .append (.of_isFree hbefore) (.append hpiece.isBalanced ih)

end Divides

namespace Ending

/-- What an ending holds of starts with a bracket if there is any. -/
theorem Holds.not_isFree {c : Char} (h : ending.Holds b (c :: cs)) : ¬b.IsFree [c] := by
  rw [isFree_singleton]
  cases ending with
  | complete => exact nomatch h
  | unexpected =>
    obtain ⟨rest, hrest⟩ := h
    simp_all
  | unclosed =>
    obtain ⟨rest, hrest⟩ := IsOpen.starts h
    simp_all

/-- A text ends in one way only. -/
theorem Holds.unique (hb : b.opening ≠ b.closing) {ending' : Ending} (h : ending.Holds b cs)
    (h' : ending'.Holds b cs) : ending = ending' := by
  have hunclosed : ∀ rest, ¬IsOpen b (b.closing :: rest) := by
    intro rest hopen
    obtain ⟨_, heq⟩ := hopen.starts
    exact hb (by simpa using congrArg List.head? heq)
  cases ending with
  | complete =>
    obtain rfl : cs = [] := h
    cases ending' with
    | complete => rfl
    | unexpected => exact nomatch h'
    | unclosed => exact absurd rfl (IsOpen.ne_nil h')
  | unexpected =>
    obtain ⟨rest, rfl⟩ := h
    cases ending' with
    | complete => exact nomatch h'
    | unexpected => rfl
    | unclosed => exact absurd h' (hunclosed rest)
  | unclosed =>
    cases ending' with
    | complete =>
      obtain rfl : cs = [] := h'
      exact absurd rfl (IsOpen.ne_nil h)
    | unexpected =>
      obtain ⟨rest, rfl⟩ := h'
      exact absurd h (hunclosed rest)
    | unclosed => rfl

/-- No bracketing starts where the division into bracketings has ended. -/
theorem Holds.not_isBracketing (hb : b.opening ≠ b.closing) {rest : List Char}
    (h : ending.Holds b (piece ++ rest)) : ¬b.IsBracketing piece := by
  intro hpiece
  obtain ⟨inner, rfl, -⟩ := hpiece.eq_cons hb
  cases ending with
  | complete => exact nomatch h
  | unexpected =>
    obtain ⟨rest', hrest⟩ := h
    exact hb (by simpa using congrArg List.head? hrest)
  | unclosed =>
    have := IsOpen.depth_pos h (b.opening :: inner) ⟨rest, rfl⟩ (by simp)
    rw [hpiece.depth_eq_zero] at this
    omega

end Ending

namespace TopLevel

/-- What comes behind the text without brackets that a text starts with. -/
theorem dropWhile_append (hgap : b.IsFree gap) (hcs : ∀ c rest, cs = c :: rest → ¬b.IsFree [c]) :
    (gap ++ cs).dropWhile (fun c => c != b.opening && c != b.closing) = cs := by
  have hother : ∀ c ∈ gap, (c != b.opening && c != b.closing) = true := by
    intro c hc
    simpa using hgap c hc
  rw [List.dropWhile_append_of_pos hother]
  cases cs with
  | nil => rfl
  | cons c rest =>
    have hc := hcs c rest rfl
    rw [isFree_singleton] at hc
    rw [List.dropWhile_cons_of_neg (by simpa using hc)]

/-- A text that starts with a bracketing starts with a bracket. -/
theorem not_isFree_of_isBracketing (hb : b.opening ≠ b.closing) (hpiece : b.IsBracketing piece)
    (rest : List Char) : ∀ c tail, piece ++ rest = c :: tail → ¬b.IsFree [c] := by
  intro c tail heq hfree
  obtain ⟨inner, rfl, -⟩ := hpiece.eq_cons hb
  obtain ⟨rfl, -⟩ : b.opening = c ∧ _ := by simpa using heq
  exact (isFree_singleton.mp hfree).1 rfl

/-- A text is divided into bracketings in one way only. -/
theorem unique (hb : b.opening ≠ b.closing) {pieces' : List (List Char)} {ending' : Ending}
    (h : TopLevel b cs pieces ending) (h' : TopLevel b cs pieces' ending') :
    pieces = pieces' ∧ ending = ending' := by
  obtain ⟨front, tail, rfl, hfront, hend⟩ := h
  obtain ⟨front', tail', heq, hfront', hend'⟩ := h'
  have htail : ∀ c rest, tail = c :: rest → ¬b.IsFree [c] := by
    rintro c rest rfl
    exact hend.not_isFree
  have htail' : ∀ c rest, tail' = c :: rest → ¬b.IsFree [c] := by
    rintro c rest rfl
    exact hend'.not_isFree
  induction hfront generalizing front' pieces' with
  | gap hgap =>
    have hcut := dropWhile_append hgap htail
    cases hfront' with
    | gap hgap' =>
      rw [heq, dropWhile_append hgap' htail'] at hcut
      exact ⟨rfl, hend.unique hb (hcut ▸ hend')⟩
    | @piece gap' piece' rest' _ hgap' hpiece' _ =>
      rw [heq, List.append_assoc, List.append_assoc,
        dropWhile_append hgap' (not_isFree_of_isBracketing hb hpiece' _)] at hcut
      exact absurd hpiece' (Ending.Holds.not_isBracketing hb (hcut ▸ hend))
  | @piece gap piece rest _ hgap hpiece _ ih =>
    have hcut := dropWhile_append hgap (not_isFree_of_isBracketing hb hpiece (rest ++ tail))
    rw [← List.append_assoc piece, ← List.append_assoc gap, heq] at hcut
    cases hfront' with
    | gap hgap' =>
      rw [dropWhile_append hgap' htail'] at hcut
      rw [hcut, List.append_assoc] at hend'
      exact absurd hpiece (Ending.Holds.not_isBracketing hb hend')
    | @piece gap' piece' rest' _ hgap' hpiece' hrest' =>
      rw [List.append_assoc, List.append_assoc,
        dropWhile_append hgap' (not_isFree_of_isBracketing hb hpiece' _), List.append_assoc] at hcut
      obtain rfl := hpiece'.eq_of_append_eq hpiece hcut
      obtain ⟨rfl, rfl⟩ := ih rest' (List.append_cancel_left hcut).symm hrest'
      exact ⟨rfl, rfl⟩

/-- The division does not reach the end of a text exactly if some closing bracket stands where no
bracket is open, or brackets are open at the end. -/
theorem ending_ne_complete_iff (hb : b.opening ≠ b.closing) (h : TopLevel b cs pieces ending) :
    ending ≠ .complete ↔
      (∃ front, front ++ [b.closing] <+: cs ∧ b.depth front = 0) ∨ 0 < b.depth cs := by
  obtain ⟨front, tail, rfl, hfront, hend⟩ := h
  have hbalanced := hfront.isBalanced
  cases ending with
  | complete =>
    obtain rfl : tail = [] := hend
    rw [List.append_nil]
    refine iff_of_false (by simp) ?_
    rintro (⟨before, hbefore, hzero⟩ | hpos)
    · have := hbalanced.depth_nonneg _ hbefore
      rw [depth_append, depth_closing hb] at this
      omega
    · have := hbalanced.depth_eq_zero
      omega
  | unexpected =>
    obtain ⟨rest, rfl⟩ := hend
    refine iff_of_true (by simp) (.inl ⟨front, ⟨rest, by simp⟩, hbalanced.depth_eq_zero⟩)
  | unclosed =>
    have := IsOpen.depth_pos hend tail List.prefix_rfl (IsOpen.ne_nil hend)
    refine iff_of_true (by simp) (.inr ?_)
    rw [depth_append, hbalanced.depth_eq_zero]
    omega

end TopLevel

end PhraseStructure.Treebank
