import PhraseStructure.Proofs.Treebank.Findings
import PhraseStructure.Proofs.Treebank.Rereading

/-!
# The first tree of a treebank

A single text can be read as a tree, or as a treebank of one line of which the first tree is taken
(`firstTree`). Both refuse what is no pair of brackets, and between different brackets both find the
tree of the first bracketing (`firstTree_of_read`). They differ for a pair of equal characters. As a
tree nothing is read then, but the reader of treebanks takes every bracket for an opening one
(`Reader.OnlyOpens`): it goes to the end of the text, finds no tree, and misses a closing bracket if
there is a bracket at all (`firstTree_of_opening_eq_closing`).
-/

namespace PhraseStructure.Treebank

open Brackets

variable {b : Brackets} {r : Reader} {cs : List Char} {c : Char} {s : String} {given : Datum}
  {t : Tree String} {piece : List Char} {pieces : List (List Char)} {ending : Ending}

/-- The first tree that was found, or else the fault that ended the reading. -/
def firstTree (found : List Event × Option Fault) : Except Fault (Option (Tree String)) :=
  match trees found.1, found.2 with
  | t :: _, _ => .ok (some t)
  | [], some fault => .error fault
  | [], none => .ok none

/-- The call was refused because something of another kind should have been given. -/
def IsRefused {α : Type} (outcome : Except Fault α) : Prop :=
  ∃ fault, outcome = .error fault ∧ fault.kind = .badKind

/-- A list with one text is read as its only line. -/
theorem read_singleton (b : Brackets) (s : String) :
    Treebank.read (.list [.text s]) (.text b.text) = readLines b [s.toList] := by
  simpa using read_texts b [s]

section EqualBrackets

/-- The text from its first bracket on; all of it if there is none. -/
def fromFirstBracket (b : Brackets) (cs : List Char) : List Char :=
  if b.opening ∈ cs then cs.dropWhile (· != b.opening) else cs

/-- A first bracket takes the place of the text before it. -/
theorem fromFirstBracket_concat_opening (h : b.opening ∉ cs) :
    fromFirstBracket b (cs ++ [b.opening]) = [b.opening] := by
  have hother : ∀ c ∈ cs, (c != b.opening) = true := by
    intro c hc
    rw [bne_iff_ne]
    rintro rfl
    exact h hc
  rw [fromFirstBracket, if_pos (by simp), List.dropWhile_append_of_pos hother]
  simp

/-- Behind the first bracket, and as long as there is none, every character is kept. -/
theorem fromFirstBracket_concat (h : b.opening ∈ cs ∨ c ≠ b.opening) :
    fromFirstBracket b (cs ++ [c]) = fromFirstBracket b cs ++ [c] := by
  by_cases hmem : b.opening ∈ cs
  · have hrest : cs.dropWhile (· != b.opening) ≠ [] := by
      rw [Ne, List.dropWhile_eq_nil_iff]
      intro hother
      simpa using hother b.opening hmem
    rw [fromFirstBracket, fromFirstBracket, if_pos (by simp [hmem]), if_pos hmem,
      List.dropWhile_append, if_neg (by simpa using hrest)]
  · have hc : c ≠ b.opening := h.resolve_left hmem
    rw [fromFirstBracket, fromFirstBracket, if_neg (by simp [hmem, hc.symm]), if_neg hmem]

namespace Reader

/-- The reader has opened a bracket for each one in the text, and has found no tree. -/
structure OnlyOpens (b : Brackets) (r : Reader) (cs : List Char) : Prop where
  brackets_eq : r.brackets = b
  fault_eq : r.fault = none
  chunk_eq : r.chunk = []
  sound : r.broken = false
  trees_eq : trees r.events = []
  depth_eq : r.depth = cs.count b.opening
  piece_eq : r.piece.reverse = fromFirstBracket b cs

namespace OnlyOpens

/-- At the start no bracket is open. -/
theorem start (b : Brackets) : OnlyOpens b (start b) [] :=
  ⟨rfl, rfl, rfl, rfl, rfl, rfl, rfl⟩

/-- No bracket is open exactly if there was none. -/
theorem depth_eq_zero_iff (h : OnlyOpens b r cs) : r.depth = 0 ↔ b.opening ∉ cs := by
  rw [h.depth_eq, List.count_eq_zero]

/-- Where both brackets are the same, none of them closes. -/
theorem step (hb : b.opening = b.closing) (h : OnlyOpens b r cs) (line : List Char) (c : Char)
    (index : Nat) : OnlyOpens b (r.step line (c, index)) (cs ++ [c]) := by
  obtain rfl := h.brackets_eq
  by_cases hc : c = r.brackets.opening
  · subst hc
    have hcount : (cs ++ [r.brackets.opening]).count r.brackets.opening = r.depth + 1 := by
      rw [List.count_append, List.count_singleton_self, h.depth_eq]
    by_cases hdepth : r.depth = 0
    · have hnone := h.depth_eq_zero_iff.mp hdepth
      rw [step_opening_outside h.fault_eq hdepth]
      refine ⟨rfl, h.fault_eq, h.chunk_eq, h.sound, ?_, by rw [hcount, hdepth], ?_⟩
      · simpa [events, trees_append] using h.trees_eq
      · rw [fromFirstBracket_concat_opening hnone]
        rfl
    · have hmem : r.brackets.opening ∈ cs := not_not.mp (mt h.depth_eq_zero_iff.mpr hdepth)
      rw [step_opening_inside h.fault_eq (Nat.pos_of_ne_zero hdepth)]
      refine ⟨rfl, h.fault_eq, h.chunk_eq, h.sound, h.trees_eq, hcount.symm, ?_⟩
      rw [fromFirstBracket_concat (.inl hmem), ← h.piece_eq, List.reverse_cons]
  · rw [step_other h.fault_eq hc (hb ▸ hc)]
    refine ⟨rfl, h.fault_eq, h.chunk_eq, h.sound, h.trees_eq, ?_, ?_⟩
    · rw [List.count_append, List.count_singleton, h.depth_eq]
      simp [hc]
    · rw [fromFirstBracket_concat (.inr hc), ← h.piece_eq, List.reverse_cons]

/-- The characters of a line, if the two brackets are equal, only open brackets. -/
theorem foldl_step (hb : b.opening = b.closing) (h : OnlyOpens b r cs) (line : List Char)
    (numbered : List (Char × Nat)) :
    OnlyOpens b (numbered.foldl (Reader.step line) r) (cs ++ numbered.map Prod.fst) := by
  induction numbered generalizing r cs with
  | nil => simpa using h
  | cons c numbered ih =>
    rw [List.foldl_cons, List.map_cons, ← List.singleton_append, ← List.append_assoc]
    exact ih (h.step hb line c.1 c.2)

/-- At the end of the only line a bracket is still open if there was one. -/
theorem firstTree_finish (h : OnlyOpens b r cs) :
    firstTree (r.endLine.finish.events, r.endLine.finish.fault) =
      if b.opening ∈ cs then
        .error (malformedTree b (cs.dropWhile (· != b.opening)) .unbalanced)
      else .ok none := by
  obtain rfl := h.brackets_eq
  by_cases hdepth : r.depth = 0
  · have hnone : trees r.endLine.finish.events = [] := by
      rw [events_finish, endLine_outside h.fault_eq hdepth]
      simpa [events, trees_append] using h.trees_eq
    have hfault : r.endLine.finish.fault = none := by
      rw [endLine_outside h.fault_eq hdepth]
      simp [finish, h.fault_eq, hdepth]
    rw [if_neg (h.depth_eq_zero_iff.mp hdepth), firstTree, hnone, hfault]
  · have hmem : r.brackets.opening ∈ cs := not_not.mp (mt h.depth_eq_zero_iff.mpr hdepth)
    have hnone : trees r.endLine.finish.events = [] := by
      rw [events_finish, endLine_inside h.fault_eq (Nat.pos_of_ne_zero hdepth)]
      exact h.trees_eq
    have htext : chunkText (r.piece.reverse :: r.chunk) =
        cs.dropWhile (· != r.brackets.opening) := by
      rw [h.chunk_eq, h.piece_eq, fromFirstBracket, if_pos hmem]
      rfl
    have hfault : r.endLine.finish.fault = some (malformedTree r.brackets
        (cs.dropWhile (· != r.brackets.opening)) .unbalanced) := by
      rw [endLine_inside h.fault_eq (Nat.pos_of_ne_zero hdepth), ← htext]
      simp [finish, h.fault_eq, hdepth, h.sound]
    rw [if_pos hmem, firstTree, hnone, hfault]

end OnlyOpens

end Reader

/-- Between equal brackets no tree is found in a line. -/
theorem firstTree_of_opening_eq_closing (hb : b.opening = b.closing) (s : String) :
    firstTree (Treebank.read (.list [.text s]) (.text b.text)) =
      if b.opening ∈ s.toList then
        .error (malformedTree b (s.toList.dropWhile (· != b.opening)) .unbalanced)
      else .ok none := by
  have hline := (Reader.OnlyOpens.start b).foldl_step hb s.toList s.toList.zipIdx
  rw [List.zipIdx_map_fst, List.nil_append] at hline
  rw [read_singleton]
  exact hline.firstTree_finish

/-- As a tree nothing is read between equal brackets. -/
theorem read_of_opening_eq_closing (hb : b.opening = b.closing) (s : String) :
    Tree.read (.text s) (.text b.text) = .fail .sameBrackets := by
  rw [Tree.read, readForTree_text]
  exact if_pos hb

end EqualBrackets

section DifferentBrackets

/-- The division of a text into bracketings starts with its first bracketing. -/
theorem TopLevel.exists_eq_cons (hb : b.opening ≠ b.closing) (h : TopLevel b cs pieces ending)
    (hfirst : b.IsFirstBracketing cs piece) : ∃ rest, pieces = piece :: rest := by
  obtain ⟨front, tail, rfl, hfront, hend⟩ := h
  cases hfront with
  | gap hgap =>
    have htail : ∀ c rest, tail = c :: rest → ¬b.IsFree [c] := by
      rintro c rest rfl
      exact hend.not_isFree
    obtain ⟨gap, after, heq, hgap', hpiece⟩ := hfirst
    have hcut := dropWhile_append hgap htail
    rw [heq, dropWhile_append hgap' (not_isFree_of_isBracketing hb hpiece after)] at hcut
    exact absurd hpiece (Ending.Holds.not_isBracketing hb (hcut ▸ hend))
  | @piece gap first rest pieces hgap hpiece _ =>
    have hfirst' : b.IsFirstBracketing (gap ++ (first ++ rest) ++ tail) first :=
      ⟨gap, rest ++ tail, by simp, hgap, hpiece⟩
    exact ⟨pieces, by rw [hfirst.unique hb hfirst']⟩

/-- The tree that a text with a bracket is read as is the first one of the treebank of this line. -/
theorem firstTree_of_read (hb : b.opening ≠ b.closing) (hbracket : ¬b.IsFree s.toList)
    (h : (Tree.read (.text s) (.text b.text)).result = .ok t) :
    firstTree (Treebank.read (.list [.text s]) (.text b.text)) = .ok (some t) := by
  rw [Tree.read_text hb] at h
  obtain ⟨blanks, piece, after, heq, hblanks, hpiece, hbuilt⟩ :=
    Tree.exists_isBracketing_of_readChars hb hbracket h
  have hfirst : b.IsFirstBracketing s.toList piece :=
    ⟨blanks, after, heq, isFree_of_allBlank hblanks, hpiece⟩
  obtain ⟨r, hfollows, hlines⟩ := exists_follows_join hb [s.toList]
  obtain ⟨front, pieces, ending, htop, hreports, -⟩ := hfollows.finish
  obtain ⟨rest, rfl⟩ := TopLevel.exists_eq_cons hb htop hfirst
  obtain ⟨u, us, hu, -, htrees⟩ := List.forall₂_cons_left_iff.mp hreports.reads
  obtain ⟨v, hbuilt', hv⟩ := Tree.readChars_bracketing hb hpiece
  rw [Tree.read_text hb, String.toList_ofList, hv] at hu
  cases hu
  cases hbuilt.symm.trans hbuilt'
  rw [read_singleton, readLines, hlines, firstTree, htrees]

/-- Between different brackets neither a text nor a treebank is refused: they may be malformed only.
-/
theorem not_isRefused_of_opening_ne_closing (hb : b.opening ≠ b.closing) (s : String) :
    ¬IsRefused (Tree.read (.text s) (.text b.text)).result := by
  rintro ⟨fault, hfault, hkind⟩
  obtain ⟨hok, hmalformed, -⟩ := Tree.read_text_isOk_iff hb s
  by_cases haccepts : b.Accepts s.toList
  · obtain ⟨t, ht⟩ := hok.mpr haccepts
    rw [ht] at hfault
    cases hfault
  · obtain ⟨defect, hdefect, -⟩ := hmalformed haccepts
    rw [hdefect] at hfault
    cases hfault
    cases hkind

end DifferentBrackets

/-- A text that is read as a tree, and the first tree of the treebank with this text as its only
line. What is no pair of brackets is refused in both, with the same fault. Between different
brackets neither is refused, and if a tree is read from a text with a bracket, it is the first one
of the treebank. Between equal brackets nothing is read as a tree, but the treebank is read to its
end without finding a tree: with a bracket in it, it is malformed, and without one it holds nothing.
So where a text is refused the treebank is refused, too, exactly if the brackets are no pair of
equal characters. -/
theorem first_tree_laws (s : String) (given : Datum) :
    (∀ fault, Brackets.readForTree given = .error fault → fault.kind = .badKind ∧
        (Tree.read (.text s) given).result = .error fault ∧
        firstTree (Treebank.read (.list [.text s]) given) = .error fault) ∧
      (∀ b : Brackets, given = .text b.text → b.opening ≠ b.closing →
        ¬IsRefused (Tree.read (.text s) given).result ∧
        ∀ t, (Tree.read (.text s) given).result = .ok t →
          (b.opening ∈ s.toList ∨ b.closing ∈ s.toList) →
            firstTree (Treebank.read (.list [.text s]) given) = .ok (some t)) ∧
      (∀ b : Brackets, given = .text b.text → b.opening = b.closing →
        (Tree.read (.text s) given).result = .error .sameBrackets ∧
        firstTree (Treebank.read (.list [.text s]) given) =
          if b.opening ∈ s.toList then
            .error (malformedTree b (s.toList.dropWhile (· != b.opening)) .unbalanced)
          else .ok none) ∧
      ((IsRefused (Tree.read (.text s) given).result →
          IsRefused (firstTree (Treebank.read (.list [.text s]) given))) ↔
        ¬∃ b : Brackets, given = .text b.text ∧ b.opening = b.closing) := by
  have hfault : ∀ fault, Brackets.readForTree given = .error fault → fault.kind = .badKind ∧
      (Tree.read (.text s) given).result = .error fault ∧
      firstTree (Treebank.read (.list [.text s]) given) = .error fault := by
    intro fault h
    refine ⟨by rw [(Brackets.eq_of_read_error h).1, Fault.kind], ?_, ?_⟩
    · rw [Tree.read, h]
      rfl
    · rw [Treebank.read, h]
      rfl
  have hequal : ∀ b : Brackets, given = .text b.text → b.opening = b.closing →
      (Tree.read (.text s) given).result = .error .sameBrackets ∧
      firstTree (Treebank.read (.list [.text s]) given) =
        if b.opening ∈ s.toList then
          .error (malformedTree b (s.toList.dropWhile (· != b.opening)) .unbalanced)
        else .ok none := by
    rintro b rfl hb
    rw [read_of_opening_eq_closing hb]
    exact ⟨rfl, firstTree_of_opening_eq_closing hb s⟩
  refine ⟨hfault, ?_, hequal, ?_, ?_⟩
  · rintro b rfl hb
    refine ⟨not_isRefused_of_opening_ne_closing hb s, fun t ht hbracket => ?_⟩
    refine firstTree_of_read hb (fun hfree => ?_) ht
    rcases hbracket with hopening | hclosing
    · exact (hfree _ hopening).1 rfl
    · exact (hfree _ hclosing).2 rfl
  · rintro himp ⟨b, hgiven, hb⟩
    obtain ⟨hread, hfirst⟩ := hequal b hgiven hb
    obtain ⟨fault, hrefused, hkind⟩ := himp ⟨_, hread, rfl⟩
    rw [hfirst] at hrefused
    split at hrefused
    · cases hrefused
      cases hkind
    · cases hrefused
  · intro hdiffer hrefused
    cases hread : Brackets.readForTree given with
    | error fault =>
      obtain ⟨hkind, -, hfirst⟩ := hfault fault hread
      exact ⟨fault, hfirst, hkind⟩
    | ok b =>
      obtain rfl := Brackets.read_eq_ok_iff.mp hread
      have hb : b.opening ≠ b.closing := fun hb => hdiffer ⟨b, rfl, hb⟩
      exact absurd hrefused (not_isRefused_of_opening_ne_closing hb s)

set_option maxRecDepth 2000 in
/-- A tree with another one behind it, between different brackets, and between equal ones. -/
theorem first_tree_laws_second :
    (Tree.read (.text "(S a) (T b)") (.text "()")).result = .ok (.node "S" [.leaf "a"]) ∧
      firstTree (Treebank.read (.list [.text "(S a) (T b)"]) (.text "()")) =
        .ok (some (.node "S" [.leaf "a"])) ∧
      (Tree.read (.text "(S a) (T b)") (.text "((")).result = .error .sameBrackets ∧
      ∃ b : Brackets, firstTree (Treebank.read (.list [.text "(S a) (T b)"]) (.text "((")) =
        .error (malformedTree b "(S a) (T b)".toList .unbalanced) := by
  have hopening : '(' ∈ "(S a) (T b)".toList := by decide +kernel
  have hread : (Tree.read (.text "(S a) (T b)") (.text "()")).result =
      .ok (.node "S" [.leaf "a"]) := by cbv
  obtain ⟨-, hround, -⟩ := first_tree_laws "(S a) (T b)" (.text "()")
  obtain ⟨-, hfirst⟩ := hround .round rfl (by decide)
  let twice : Brackets := ⟨'(', '(', rfl, rfl⟩
  obtain ⟨-, -, htwice, -⟩ := first_tree_laws "(S a) (T b)" (.text "((")
  obtain ⟨hrefused, hnone⟩ := htwice twice rfl rfl
  rw [if_pos hopening] at hnone
  exact ⟨hread, hfirst _ hread (.inl hopening), hrefused, twice, hnone⟩

/-- What is refused as a tree need not be refused as a treebank: between equal brackets it is
malformed. -/
theorem not_first_tree_refused :
    ¬ ∀ (s : String) (given : Datum),
      (IsRefused (Tree.read (.text s) given).result →
        IsRefused (firstTree (Treebank.read (.list [.text s]) given))) ∧
      ∀ (b : Brackets) (t : Tree String), given = .text b.text →
        (Tree.read (.text s) given).result = .ok t →
        (b.opening ∈ s.toList ∨ b.closing ∈ s.toList) →
          firstTree (Treebank.read (.list [.text s]) given) = .ok (some t) := by
  intro h
  let bars : Brackets := ⟨'|', '|', rfl, rfl⟩
  have hbars : bars.opening = bars.closing := rfl
  have hread := congrArg Logged.result (read_of_opening_eq_closing hbars "|S a|")
  obtain ⟨fault, hfirst, hkind⟩ := (h "|S a|" (.text bars.text)).1 ⟨_, hread, rfl⟩
  rw [firstTree_of_opening_eq_closing hbars, if_pos (by decide)] at hfirst
  cases hfirst
  cases hkind

end PhraseStructure.Treebank
