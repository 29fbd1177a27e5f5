import Mathlib.Data.List.Forall2
import PhraseStructure.Tree.Treebank
import PhraseStructure.Proofs.Tree.Acceptance
import PhraseStructure.Proofs.Treebank.Division

/-!
# Reading a treebank

What a reader remembers is determined by the text that it has read, however that text was divided
into lines (`Reader.Follows`). Each character keeps it so (`Reader.Follows.step`), and the end of a
line counts as a space (`Reader.Follows.endLine`). Hence a treebank yields the trees of the
bracketings at its top level, and ends in a fault exactly if these are not all of its brackets
(`read_lines`).
-/

namespace PhraseStructure.Treebank

open Brackets

variable {b : Brackets} {r : Reader} {cs ds : List Char} {c : Char} {events : List Event}
  {pieces : List (List Char)}

/-- The events that the bracketings of a text and the text between them give rise to. -/
inductive Reports (b : Brackets) : List Char → List (List Char) → List Event → Prop
  | nil : Reports b [] [] []
  | outside {cs gap : List Char} {pieces : List (List Char)} {events : List Event} :
      Reports b cs pieces events → b.IsFree gap →
      Reports b (cs ++ gap) pieces (events ++ outsideEvents gap)
  | tree {cs piece : List Char} {pieces : List (List Char)} {events : List Event}
      {t : Tree String} :
      Reports b cs pieces events → b.IsBracketing piece →
      Tree.read (.text (String.ofList piece)) (.text b.text) = ⟨[], .ok t⟩ →
      Reports b (cs ++ piece) (pieces ++ [piece]) (events ++ [.tree t])

/-- Text outside of trees is worth one entry at most. -/
theorem outsideEvents_cases (cs : List Char) :
    outsideEvents cs = [] ∨ ∃ entry, outsideEvents cs = [.note entry] := by
  unfold outsideEvents
  split
  · exact .inl rfl
  · exact .inr ⟨_, rfl⟩

/-- Text outside of trees has too few entries for their order to matter. -/
@[simp] theorem reverse_outsideEvents (cs : List Char) :
    (outsideEvents cs).reverse = outsideEvents cs := by
  rcases outsideEvents_cases cs with h | ⟨entry, h⟩ <;> simp [h]

/-- There is no tree in text outside of trees. -/
@[simp] theorem trees_outsideEvents (cs : List Char) : trees (outsideEvents cs) = [] := by
  rcases outsideEvents_cases cs with h | ⟨entry, h⟩ <;> simp [h, trees]

/-- The trees among some events come before those among later ones. -/
theorem trees_append (events events' : List Event) :
    trees (events ++ events') = trees events ++ trees events' :=
  List.filterMap_append

namespace Reports

/-- What is reported is a division of the text into bracketings. -/
theorem divides (h : Reports b cs pieces events) : Divides b cs pieces := by
  induction h with
  | nil => exact .gap (by simp [IsFree])
  | outside _ hgap ih => exact ih.append_gap hgap
  | tree _ hpiece _ ih => exact ih.append_piece hpiece

/-- The trees are those of the bracketings, each read without an entry or a fault. -/
theorem reads (h : Reports b cs pieces events) :
    List.Forall₂ (fun piece t =>
      Tree.read (.text (String.ofList piece)) (.text b.text) = ⟨[], .ok t⟩)
      pieces (trees events) := by
  induction h with
  | nil => exact .nil
  | outside _ _ ih => simpa [trees_append] using ih
  | tree _ _ hread ih =>
    rw [trees_append]
    exact List.rel_append ih (.cons hread .nil)

/-- The entries are about text outside of the bracketings. -/
theorem notes (h : Reports b cs pieces events) :
    ∀ entry ∈ entries events, ∃ gap, b.IsFree gap ∧ outsideEvents gap = [.note entry] := by
  induction h with
  | nil => simp [entries]
  | @outside _ gap _ _ _ hgap ih =>
    intro entry hentry
    rw [entries, List.filterMap_append, List.mem_append] at hentry
    rcases hentry with hold | hnew
    · exact ih entry hold
    · rcases outsideEvents_cases gap with hnone | ⟨note, hnote⟩
      · simp [hnone] at hnew
      · obtain rfl : entry = note := by simpa [hnote] using hnew
        exact ⟨gap, hgap, hnote⟩
  | tree _ _ _ ih =>
    intro entry hentry
    refine ih entry ?_
    simpa [entries] using hentry

end Reports

namespace Reader

/-- What the reader remembers of the text since the last bracketing. -/
inductive Remembers (b : Brackets) (r : Reader) (cs : List Char) : Prop
  /-- No bracket is open. -/
  | outside : r.fault = none → r.depth = 0 → r.chunk = [] → r.piece.reverse = cs → b.IsFree cs →
      Remembers b r cs
  /-- A bracketing has begun. -/
  | inside : r.fault = none → (r.depth : Int) = b.depth cs →
      chunkText (r.piece.reverse :: r.chunk) = cs → IsOpen b cs → Remembers b r cs
  /-- There was a closing bracket where none was open. -/
  | stopped {gap rest line : List Char} {index : Nat} :
      r.fault = some (malformedTree b line (.unexpected b.closing index)) → b.IsFree gap →
      cs = gap ++ b.closing :: rest → Remembers b r cs

/-- The state of the reader fits the text that it has read. -/
structure Follows (b : Brackets) (r : Reader) (cs : List Char) : Prop where
  brackets_eq : r.brackets = b
  sound : r.broken = false
  progress : ∃ front tail pieces, cs = front ++ tail ∧ Reports b front pieces r.events ∧
    r.Remembers b tail

/-- The text of a tree grows with the last piece of it. -/
theorem chunkText_append (piece rest : List Char) (chunk : List (List Char)) :
    chunkText ((piece ++ rest) :: chunk) = chunkText (piece :: chunk) ++ rest := by
  simp [chunkText, Text.join_concat]

/-- A new piece stands behind a space. -/
theorem chunkText_nil_cons (piece : List Char) (chunk : List (List Char)) :
    chunkText ([] :: piece :: chunk) = chunkText (piece :: chunk) ++ [' '] := by
  rw [chunkText, List.reverse_cons, Text.join_concat]
  simp [chunkText, Text.join_concat]

/-- One more character of an open tree. -/
theorem Remembers.inside_concat {r' : Reader} (hopen : IsOpen b cs)
    (htext : chunkText (r.piece.reverse :: r.chunk) = cs) (hfault : r'.fault = none)
    (hpiece : r'.piece = c :: r.piece) (hchunk : r'.chunk = r.chunk)
    (hdepth : (r'.depth : Int) = b.depth (cs ++ [c])) (hpos : 0 < b.depth (cs ++ [c])) :
    r'.Remembers b (cs ++ [c]) := by
  refine .inside hfault hdepth ?_ (hopen.concat hpos)
  rw [hpiece, hchunk, List.reverse_cons, chunkText_append, htext]

/-- At the start the state of the reader fits the empty text. -/
theorem follows_start (b : Brackets) : Follows b (start b) [] where
  brackets_eq := rfl
  sound := rfl
  progress := ⟨[], [], [], rfl, .nil, .outside rfl rfl rfl rfl (by simp [IsFree])⟩

/-- The bracket that is missing at the end of an open text makes a bracketing of it, and its tree is
read without an entry or a fault. -/
theorem read_isOpen (hb : b.opening ≠ b.closing) (hopen : IsOpen b cs) (hdepth : b.depth cs = 1) :
    b.IsBracketing (cs ++ [b.closing]) ∧
      ∃ t, Tree.read (.text (String.ofList (cs ++ [b.closing]))) (.text b.text) = ⟨[], .ok t⟩ := by
  have hpiece := hopen.isBracketing hb hdepth
  obtain ⟨t, -, ht⟩ := Tree.readChars_bracketing hb hpiece
  refine ⟨hpiece, t, ?_⟩
  rw [Tree.read_text hb, String.toList_ofList, ht]

section Step

variable {line : List Char} {index : Nat}

/-- After a fault no character changes anything. -/
theorem step_of_fault {fault : Fault} (hfault : r.fault = some fault) (c : Char × Nat) :
    r.step line c = r := by
  simp [step, hfault]

/-- An opening bracket where none is open begins a piece, and what stood before it is outside of
trees. -/
theorem step_opening_outside (hfault : r.fault = none) (hdepth : r.depth = 0) :
    r.step line (r.brackets.opening, index) =
      { r with
        depth := 1
        piece := [r.brackets.opening]
        found := outsideEvents r.piece.reverse ++ r.found } := by
  simp [step, hfault, hdepth]

/-- An opening bracket within a piece is one more that is open. -/
theorem step_opening_inside (hfault : r.fault = none) (hdepth : 0 < r.depth) :
    r.step line (r.brackets.opening, index) =
      { r with depth := r.depth + 1, piece := r.brackets.opening :: r.piece } := by
  simp [step, hfault, Nat.ne_of_gt hdepth]

/-- A closing bracket where none is open is a fault. -/
theorem step_closing_outside (hb : r.brackets.opening ≠ r.brackets.closing)
    (hfault : r.fault = none) (hdepth : r.depth = 0) :
    r.step line (r.brackets.closing, index) =
      { r with
        fault := some (malformedTree r.brackets line (.unexpected r.brackets.closing index)) } := by
  simp [step, hfault, hb.symm, hdepth]

/-- A closing bracket that is not the last one of a piece is one less that is open. -/
theorem step_closing_inside (hb : r.brackets.opening ≠ r.brackets.closing)
    (hfault : r.fault = none) (hdepth : 1 < r.depth) :
    r.step line (r.brackets.closing, index) =
      { r with depth := r.depth - 1, piece := r.brackets.closing :: r.piece } := by
  obtain ⟨depth, hdepth⟩ : ∃ depth, r.depth = depth + 2 := ⟨r.depth - 2, by omega⟩
  simp [step, hfault, hb.symm, hdepth]

/-- The bracket that closes the first one of a tree completes it. -/
theorem step_closing_last (hb : r.brackets.opening ≠ r.brackets.closing) (hfault : r.fault = none)
    (hsound : r.broken = false) (hdepth : r.depth = 1) {t : Tree String}
    (hread : Tree.read
      (.text (String.ofList (chunkText ((r.brackets.closing :: r.piece).reverse :: r.chunk))))
      (.text r.brackets.text) = ⟨[], .ok t⟩) :
    r.step line (r.brackets.closing, index) =
      { r with depth := 0, chunk := [], piece := [], found := .tree t :: r.found } := by
  simp only [step, hfault, hb.symm, hdepth, hsound, Bool.false_eq_true, if_false, if_true]
  simp only [complete, hread, List.map_nil, List.reverse_nil, List.nil_append, hfault, hsound]

/-- Any other character belongs to the text that is remembered. -/
theorem step_other (hfault : r.fault = none) (hopening : c ≠ r.brackets.opening)
    (hclosing : c ≠ r.brackets.closing) :
    r.step line (c, index) = { r with piece := c :: r.piece } := by
  simp [step, hfault, hopening, hclosing]

/-- After a fault the end of a line changes nothing. -/
theorem endLine_of_fault {fault : Fault} (hfault : r.fault = some fault) : r.endLine = r := by
  simp [endLine, hfault]

/-- After a fault no line is read. -/
theorem line_of_fault {fault : Fault} (hfault : r.fault = some fault) (cs : List Char) :
    r.line cs = r := by
  have hsteps : ∀ numbered : List (Char × Nat), numbered.foldl (step cs) r = r := by
    intro numbered
    induction numbered with
    | nil => rfl
    | cons c numbered ih => rw [List.foldl_cons, step_of_fault hfault, ih]
  rw [line, hsteps, endLine_of_fault hfault]

/-- At the end of a line outside of trees, what is remembered is reported. -/
theorem endLine_outside (hfault : r.fault = none) (hdepth : r.depth = 0) :
    r.endLine = { r with piece := [], found := outsideEvents r.piece.reverse ++ r.found } := by
  simp [endLine, hfault, hdepth]

/-- At the end of a line within a piece, what was read of it is put aside. -/
theorem endLine_inside (hfault : r.fault = none) (hdepth : 0 < r.depth) :
    r.endLine = { r with piece := [], chunk := r.piece.reverse :: r.chunk } := by
  simp [endLine, hfault, Nat.ne_of_gt hdepth]

end Step

namespace Follows

variable (hb : b.opening ≠ b.closing)
include hb

/-- One more character keeps the state of the reader fitting. -/
theorem step (h : Follows b r cs) (line : List Char) (c : Char) (index : Nat) :
    Follows b (r.step line (c, index)) (cs ++ [c]) := by
  obtain ⟨rfl, hsound, front, tail, pieces, rfl, hreports, htail⟩ := h
  rw [List.append_assoc]
  cases htail with
  | outside hfault hdepth hchunk hpiece hfree =>
    by_cases ho : c = r.brackets.opening
    · -- The text outside is over, and a bracketing begins.
      subst ho
      rw [step_opening_outside hfault hdepth]
      refine ⟨rfl, hsound, front ++ tail, [r.brackets.opening], pieces, by simp, ?_, ?_⟩
      · simpa [events, hpiece] using hreports.outside hfree
      · refine .inside hfault ?_ ?_ (.singleton hb)
        · rw [depth_opening hb]
          rfl
        · rw [hchunk]
          rfl
    · by_cases hc : c = r.brackets.closing
      · subst hc
        rw [step_closing_outside hb hfault hdepth]
        exact ⟨rfl, hsound, front, _, pieces, rfl, hreports, .stopped rfl hfree rfl⟩
      · rw [step_other hfault ho hc]
        refine ⟨rfl, hsound, front, _, pieces, rfl, hreports, ?_⟩
        refine .outside hfault hdepth hchunk (by simp [hpiece]) ?_
        exact isFree_append.mpr ⟨hfree, isFree_singleton.mpr ⟨ho, hc⟩⟩
  | inside hfault hdepth htext hopen =>
    have hpos := hopen.depth_pos tail List.prefix_rfl hopen.ne_nil
    have hdepth' := depth_append tail [c] (b := r.brackets)
    by_cases ho : c = r.brackets.opening
    · subst ho
      rw [depth_opening hb] at hdepth'
      rw [step_opening_inside hfault (by omega)]
      refine ⟨rfl, hsound, front, _, pieces, rfl, hreports, ?_⟩
      exact .inside_concat hopen htext hfault rfl rfl (by simp [hdepth, hdepth']) (by omega)
    · by_cases hc : c = r.brackets.closing
      · subst hc
        rw [depth_closing hb] at hdepth'
        by_cases hlast : r.depth = 1
        · -- The text since the last tree is a bracketing.
          obtain ⟨hpiece, t, hread⟩ := read_isOpen hb hopen (by omega)
          have htext' : chunkText ((r.brackets.closing :: r.piece).reverse :: r.chunk) =
              tail ++ [r.brackets.closing] := by
            rw [List.reverse_cons, chunkText_append, htext]
          rw [step_closing_last hb hfault hsound hlast (htext' ▸ hread)]
          refine ⟨rfl, hsound, front ++ (tail ++ [r.brackets.closing]), [],
            pieces ++ [tail ++ [r.brackets.closing]], by simp, ?_, ?_⟩
          · simpa [events] using hreports.tree hpiece hread
          · exact .outside hfault rfl rfl rfl (by simp [IsFree])
        · rw [step_closing_inside hb hfault (by omega)]
          refine ⟨rfl, hsound, front, _, pieces, rfl, hreports, ?_⟩
          refine .inside_concat hopen htext hfault rfl rfl ?_ (by omega)
          simp only
          omega
      · rw [(isFree_singleton.mpr ⟨ho, hc⟩).depth_eq_zero, Int.add_zero] at hdepth'
        rw [step_other hfault ho hc]
        refine ⟨rfl, hsound, front, _, pieces, rfl, hreports, ?_⟩
        exact .inside_concat hopen htext hfault rfl rfl (hdepth.trans hdepth'.symm) (by omega)
  | stopped hfault hgap htail =>
    rw [step_of_fault hfault]
    exact ⟨rfl, hsound, front, _, pieces, rfl, hreports,
      .stopped hfault hgap (by rw [htail, List.append_assoc, List.cons_append])⟩

omit hb in
/-- The end of a line counts as a space. -/
theorem endLine (h : Follows b r cs) : Follows b r.endLine (cs ++ [' ']) := by
  have hspace : b.IsFree [' '] := isFree_of_allBlank (by decide)
  obtain ⟨rfl, hsound, front, tail, pieces, rfl, hreports, htail⟩ := h
  rw [List.append_assoc]
  cases htail with
  | outside hfault hdepth hchunk hpiece hfree =>
    rw [endLine_outside hfault hdepth]
    refine ⟨rfl, hsound, front ++ tail ++ [' '], [], pieces, by simp, ?_,
      .outside hfault hdepth hchunk rfl (by simp [IsFree])⟩
    have hnone : outsideEvents [' '] = [] := by decide
    simpa [events, hpiece, hnone] using (hreports.outside hfree).outside hspace
  | inside hfault hdepth htext hopen =>
    have hpos := hopen.depth_pos tail List.prefix_rfl hopen.ne_nil
    rw [endLine_inside hfault (by omega)]
    have hdepth' := depth_append tail [' '] (b := r.brackets)
    rw [hspace.depth_eq_zero] at hdepth'
    refine ⟨rfl, hsound, front, _, pieces, rfl, hreports, .inside hfault ?_ ?_ ?_⟩
    · rw [hdepth', Int.add_zero]
      exact hdepth
    · rw [← htext]
      exact chunkText_nil_cons _ _
    · exact hopen.concat (by omega)
  | stopped hfault hgap htail =>
    rw [endLine_of_fault hfault]
    exact ⟨rfl, hsound, front, _, pieces, rfl, hreports,
      .stopped hfault hgap (by rw [htail, List.append_assoc, List.cons_append])⟩

/-- The state of the reader fits the text when the characters of a line are read. -/
theorem foldl_step (h : Follows b r cs) (line : List Char) (numbered : List (Char × Nat)) :
    Follows b (numbered.foldl (Reader.step line) r) (cs ++ numbered.map Prod.fst) := by
  induction numbered generalizing r cs with
  | nil => simpa using h
  | cons c numbered ih =>
    rw [List.foldl_cons, List.map_cons, ← List.singleton_append, ← List.append_assoc]
    exact ih (h.step hb line c.1 c.2)

/-- Lines that end add their characters, each with a space behind it. -/
theorem foldl_line (h : Follows b r cs) (lines : List (List Char)) :
    Follows b (lines.foldl Reader.line r) (cs ++ lines.flatMap (· ++ [' '])) := by
  induction lines generalizing r cs with
  | nil => simpa using h
  | cons line lines ih =>
    have hline := (h.foldl_step hb line line.zipIdx).endLine
    rw [List.zipIdx_map_fst] at hline
    rw [List.foldl_cons, List.flatMap_cons, ← List.append_assoc, ← List.append_assoc]
    exact ih hline

omit hb in
/-- What was found by the end of the text are the trees of its top level, and there is a fault
exactly if that does not reach the end. -/
theorem finish (h : Follows b r cs) :
    ∃ front pieces ending, TopLevel b cs pieces ending ∧
      Reports b front pieces r.endLine.finish.events ∧
      ((ending = .complete ∧ r.endLine.finish.fault = none) ∨ (ending ≠ .complete ∧
        ∃ cs' defect, r.endLine.finish.fault = some (malformedTree b cs' defect))) := by
  obtain ⟨rfl, hsound, front, tail, pieces, rfl, hreports, htail⟩ := h
  cases htail with
  | outside hfault hdepth hchunk hpiece hfree =>
    have hend : r.endLine.finish =
        { r with piece := [], found := outsideEvents r.piece.reverse ++ r.found } := by
      rw [endLine_outside hfault hdepth]
      simp [Reader.finish, hfault, hdepth]
    have hall := hreports.outside hfree
    rw [hend]
    refine ⟨front ++ tail, pieces, .complete, ⟨front ++ tail, [], by simp, hall.divides, rfl⟩, ?_,
      .inl ⟨rfl, hfault⟩⟩
    simpa [events, hpiece] using hall
  | inside hfault hdepth htext hopen =>
    have hpos := hopen.depth_pos tail List.prefix_rfl hopen.ne_nil
    have hend : r.endLine.finish =
        { r with
          piece := []
          chunk := r.piece.reverse :: r.chunk
          fault := some (malformedTree r.brackets tail .unbalanced) } := by
      have hne : r.depth ≠ 0 := by omega
      rw [endLine_inside hfault (by omega)]
      simp [Reader.finish, hfault, hne, hsound, htext]
    rw [hend]
    exact ⟨front, pieces, .unclosed, ⟨front, tail, rfl, hreports.divides, hopen⟩, hreports,
      .inr ⟨by simp, tail, .unbalanced, rfl⟩⟩
  | @stopped gap rest line index hfault hgap htail =>
    have hend : r.endLine.finish = r := by
      rw [endLine_of_fault hfault]
      simp [Reader.finish, hfault]
    rw [hend]
    exact ⟨front, pieces, .unexpected,
      ⟨front ++ gap, r.brackets.closing :: rest, by simp [htail], hreports.divides.append_gap hgap,
        rest, rfl⟩, hreports, .inr ⟨by simp, line, _, hfault⟩⟩

omit hb in
/-- Where a closing bracket completes a tree, the text of the tree is an open one. -/
theorem isOpen_chunkText (h : Follows b r cs) (hfault : r.fault = none) (hdepth : r.depth = 1) :
    IsOpen b (chunkText (r.piece.reverse :: r.chunk)) ∧
      b.depth (chunkText (r.piece.reverse :: r.chunk)) = 1 := by
  obtain ⟨-, -, front, tail, pieces, -, -, htail⟩ := h
  cases htail with
  | outside _ hzero => omega
  | inside _ hdepth' htext hopen =>
    rw [htext]
    exact ⟨hopen, by omega⟩
  | stopped hsome =>
    rw [hfault] at hsome
    exact nomatch hsome

end Follows

end Reader

/-- Before its last line ends, the reader has followed the lines joined by spaces. -/
theorem exists_follows_join (hb : b.opening ≠ b.closing) (lines : List (List Char)) :
    ∃ r, Reader.Follows b r (Text.join [' '] lines) ∧
      lines.foldl Reader.line (Reader.start b) = r.endLine := by
  rcases List.eq_nil_or_concat lines with rfl | ⟨init, last, rfl⟩
  · exact ⟨Reader.start b, Reader.follows_start b, rfl⟩
  · have hinit := (Reader.follows_start b).foldl_line hb init
    have hlast := hinit.foldl_step hb last last.zipIdx
    rw [List.zipIdx_map_fst, List.nil_append] at hlast
    rw [List.concat_eq_append, Text.join_concat]
    refine ⟨_, hlast, ?_⟩
    rw [List.foldl_append]
    rfl

/-- While it reads the lines, the reader takes the text to be that of a complete tree. -/
def Completes (b : Brackets) (lines : List (List Char)) (cs : List Char) : Prop :=
  ∃ before line after front back r, lines = before ++ line :: after ∧
    line = front ++ b.closing :: back ∧
    r = front.zipIdx.foldl (Reader.step line) (before.foldl Reader.line (Reader.start b)) ∧
    r.fault = none ∧ r.depth = 1 ∧
    cs = Reader.chunkText ((b.closing :: r.piece).reverse :: r.chunk)

/-- No text that is taken for a tree causes an entry or a fault. -/
theorem Completes.read (hb : b.opening ≠ b.closing) {lines : List (List Char)}
    (h : Completes b lines cs) :
    ∃ t, Tree.read (.text (String.ofList cs)) (.text b.text) = ⟨[], .ok t⟩ := by
  obtain ⟨before, line, after, front, back, r, -, -, rfl, hfault, hdepth, rfl⟩ := h
  have hfollows := ((Reader.follows_start b).foldl_line hb before).foldl_step hb line front.zipIdx
  obtain ⟨hopen, hone⟩ := hfollows.isOpen_chunkText hfault hdepth
  rw [List.reverse_cons, Reader.chunkText_append]
  exact (Reader.read_isOpen hb hopen hone).2

/-- Lines of text are read one by one. -/
theorem foldl_givenLine (r : Reader) (lines : List String) :
    (lines.map Datum.text).foldl Reader.givenLine r =
      (lines.map String.toList).foldl Reader.line r := by
  induction lines generalizing r with
  | nil => rfl
  | cons line lines ih =>
    have hline : r.givenLine (.text line) = r.line line.toList := by
      cases hfault : r.fault with
      | none => simp [Reader.givenLine, hfault]
      | some fault =>
        rw [Reader.line_of_fault hfault]
        simp [Reader.givenLine, hfault]
    rw [List.map_cons, List.foldl_cons, hline, ih, List.map_cons, List.foldl_cons]

/-- The text of some lines, which a space joins. -/
def joined (lines : List String) : List Char := Text.join [' '] (lines.map String.toList)

/-- A treebank in lines is read like these lines joined by spaces: it yields the trees of the
bracketings at the top level of the text, in order. There is a fault exactly if some closing
bracket stands where no bracket is open or a bracket is open at the end; the top level, and with it
the trees, then ends at that place. Reading a tree never fails, and only the text outside of trees
is worth an entry. -/
theorem read_lines (hb : b.opening ≠ b.closing) (lines : List String) :
    ∃ events fault pieces ending,
      Treebank.read (.list (lines.map .text)) (.text b.text) = (events, fault) ∧
      TopLevel b (joined lines) pieces ending ∧
      (∀ pieces' ending', TopLevel b (joined lines) pieces' ending' →
        pieces' = pieces ∧ ending' = ending) ∧
      List.Forall₂ (fun piece t =>
        Tree.read (.text (String.ofList piece)) (.text b.text) = ⟨[], .ok t⟩)
        pieces (trees events) ∧
      ((∃ defect, fault = some (.malformed defect)) ↔
        (∃ front, front ++ [b.closing] <+: joined lines ∧ b.depth front = 0) ∨
        0 < b.depth (joined lines)) ∧
      (∀ other, fault = some other → ∃ defect, other = .malformed defect) ∧
      (∀ cs, Completes b (lines.map String.toList) cs →
        ∃ t, Tree.read (.text (String.ofList cs)) (.text b.text) = ⟨[], .ok t⟩) ∧
      ∀ entry ∈ entries events, ∃ gap, b.IsFree gap ∧ outsideEvents gap = [.note entry] := by
  obtain ⟨r, hfollows, hlines⟩ := exists_follows_join hb (lines.map String.toList)
  obtain ⟨front, pieces, ending, htop, hreports, hfault⟩ := hfollows.finish
  refine ⟨r.endLine.finish.events, r.endLine.finish.fault, pieces, ending, ?_, htop,
    fun _ _ h => h.unique hb htop, hreports.reads, ?_, ?_, fun _ h => h.read hb, hreports.notes⟩
  · simp only [Treebank.read, readForTree_text, Datum.elements?, foldl_givenLine, hlines]
  · rw [joined, ← htop.ending_ne_complete_iff hb]
    rcases hfault with ⟨hcomplete, hnone⟩ | ⟨hcomplete, cs', defect, hsome⟩
    · simp [hcomplete, hnone]
    · simp [hcomplete, hsome, malformedTree]
  · intro fault hsome
    rcases hfault with ⟨-, hnone⟩ | ⟨-, cs', defect, hdefect⟩
    · exact absurd (hsome.symm.trans hnone) (by simp)
    · exact ⟨_, Option.some.inj (hsome.symm.trans hdefect)⟩

/-- A tree over two lines, text behind it, another tree, and a closing bracket that is left over. -/
theorem read_lines_stray_bracket :
    Brackets.round.opening ≠ Brackets.round.closing ∧
      ∃ events defect, Treebank.read
        (.list [.text "(S (A a)", .text "b) c", .text "(D d))"]) (.text Brackets.round.text) =
          (events, some (.malformed defect)) := by
  have hb : Brackets.round.opening ≠ Brackets.round.closing := by decide
  obtain ⟨events, fault, _, _, hread, -, -, -, hfault, -⟩ :=
    read_lines hb ["(S (A a)", "b) c", "(D d))"]
  obtain ⟨defect, rfl⟩ :=
    hfault.mpr (.inl ⟨"(S (A a) b) c (D d)".toList, ⟨[], by decide⟩, by decide⟩)
  exact ⟨hb, events, defect, hread⟩

end PhraseStructure.Treebank
