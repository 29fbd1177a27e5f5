import PhraseStructure.Proofs.Text.Lines
import PhraseStructure.Proofs.Tree.Layout
import PhraseStructure.Proofs.Treebank.Reading

/-!
# Reading trees that were written

The lines of trees that were written one after the other make up a text of layouts of the trees with
nothing but blanks between them, wherever the trees are broken over lines and whether or not the
lines keep their ends (`exists_divides_of_lines`). The reader finds the bracketings of that text,
and it has no entry to make: each entry is worth a character that is neither blank nor in a
bracketing (`Reports.length_entries_le`). So the trees are read back (`readLines_of_render`).
-/

namespace PhraseStructure.Treebank

open Brackets Text

variable {b : Brackets} {cs gap : List Char} {events : List Event} {pieces lines : List (List Char)}
  {ts : List (Tree String)} {lineses : List (List (List Char))}

section Lines

/-- The lines of a text, each with or without the character that ends it. -/
def IsLinesOf (cs : List Char) (lines : List (List Char)) : Prop :=
  List.Forall₂ (fun piece line => line = piece ∨ line = piece ++ ['\n']) (splitAtFeeds cs) lines

/-- Pieces without line feeds are the lines of the text that is joined of them. -/
theorem isLinesOf_join (hne : pieces ≠ []) (h : ∀ piece ∈ pieces, '\n' ∉ piece)
    (hlines : List.Forall₂ (fun piece line => line = piece ∨ line = piece ++ ['\n']) pieces lines) :
    IsLinesOf (join ['\n'] pieces) lines := by
  rw [IsLinesOf, splitAtFeeds_join hne h]
  exact hlines

/-- Read line by line, a text has other blanks, and further ones behind it. -/
theorem exists_isRespaced_of_lines
    (h : List.Forall₂ (fun piece line => line = piece ∨ line = piece ++ ['\n']) pieces lines)
    (hne : pieces ≠ []) :
    ∃ ds gap, lines.flatMap (· ++ [' ']) = ds ++ gap ∧ IsRespaced (join ['\n'] pieces) ds ∧
      IsGap gap := by
  induction h with
  | nil => exact absurd rfl hne
  | @cons piece line pieces lines hline hlines ih =>
    obtain ⟨gap, htext, hgap, hpos⟩ :
        ∃ gap, line ++ [' '] = piece ++ gap ∧ IsGap gap ∧ gap ≠ [] := by
      rcases hline with rfl | rfl
      · exact ⟨[' '], rfl, by simp [IsGap], by simp⟩
      · exact ⟨['\n', ' '], by simp, by simp [IsGap], by simp⟩
    rw [List.flatMap_cons, htext]
    by_cases hlast : pieces = []
    · subst hlast
      obtain rfl := List.forall₂_nil_left_iff.mp hlines
      exact ⟨piece, gap, by simp, .refl piece, hgap⟩
    · obtain ⟨ds, gap', hrest, hrespaced, hgap'⟩ := ih hlast
      refine ⟨piece ++ (gap ++ ds), gap', by rw [hrest]; simp, ?_, hgap'⟩
      rw [join_cons ['\n'] piece hlast, List.append_assoc, List.singleton_append]
      exact .append (.refl piece) (.blank rfl hgap hpos hrespaced)

/-- Lines with a space behind each are the text respaced, up to a gap at the end. -/
theorem IsLinesOf.exists_isRespaced (h : IsLinesOf cs lines) :
    ∃ ds gap, lines.flatMap (· ++ [' ']) = ds ++ gap ∧ IsRespaced cs ds ∧ IsGap gap := by
  obtain ⟨ds, gap, htext, hrespaced, hgap⟩ := exists_isRespaced_of_lines h (splitAtFeeds_ne_nil cs)
  rw [join_splitAtFeeds] at hrespaced
  exact ⟨ds, gap, htext, hrespaced, hgap⟩

end Lines

section Dividing

/-- Text without brackets may stand in front. -/
theorem Divides.gap_append (hgap : b.IsFree gap) (h : Divides b cs pieces) :
    Divides b (gap ++ cs) pieces := by
  cases h with
  | gap hcs => exact .gap (isFree_append.mpr ⟨hgap, hcs⟩)
  | piece hbefore hpiece hrest =>
    rw [← List.append_assoc]
    exact .piece (isFree_append.mpr ⟨hgap, hbefore⟩) hpiece hrest

/-- The lines of layouts make up a text that is divided into layouts of the same trees, with nothing
but blanks between them. -/
theorem exists_divides_of_lines (hb : b.opening ≠ b.closing)
    (h : List.Forall₂ (fun t lines => ∃ cs, Tree.IsLayout b t cs ∧ IsLinesOf cs lines) ts lineses) :
    ∃ pieces, Divides b (lineses.flatten.flatMap (· ++ [' '])) pieces ∧
      removeBlanks (lineses.flatten.flatMap (· ++ [' '])) = removeBlanks pieces.flatten ∧
      List.Forall₂ (Tree.IsLayout b) ts pieces := by
  induction h with
  | nil => exact ⟨[], .gap (by simp [IsFree]), rfl, .nil⟩
  | cons hlines _ ih =>
    obtain ⟨cs, hlayout, hlines⟩ := hlines
    obtain ⟨ds, gap, htext, hrespaced, hgap⟩ := hlines.exists_isRespaced
    obtain ⟨pieces, hdivides, hvisible, hlayouts⟩ := ih
    have hpiece := hlayout.respaced hrespaced
    have hnone : b.IsFree [] := by simp [IsFree]
    refine ⟨ds :: pieces, ?_, ?_, .cons hpiece hlayouts⟩
    · rw [List.flatten_cons, List.flatMap_append, htext, List.append_assoc]
      exact .piece hnone (hpiece.isBracketing hb)
        (hdivides.gap_append (isFree_of_allBlank hgap.allBlank))
    · rw [List.flatten_cons, List.flatMap_append, htext, removeBlanks_append, removeBlanks_append,
        removeBlanks_eq_nil_iff.mpr hgap.allBlank, hvisible, List.append_nil, List.flatten_cons,
        removeBlanks_append]

end Dividing

section Reading

/-- Each entry is worth a character that is neither blank nor in a bracketing. -/
theorem Reports.length_entries_le (h : Reports b cs pieces events) :
    (removeBlanks pieces.flatten).length + (entries events).length ≤ (removeBlanks cs).length := by
  induction h with
  | nil => simp [entries]
  | @outside cs gap pieces events _ _ ih =>
    have hworth : (entries (outsideEvents gap)).length ≤ (removeBlanks gap).length := by
      unfold outsideEvents
      split
      · simp [entries]
      · next hvisible =>
        have hne : removeBlanks gap ≠ [] := fun hnil => hvisible (removeBlanks_eq_nil_iff.mp hnil)
        exact List.length_pos_iff.mpr hne
    have happend : (entries (events ++ outsideEvents gap)).length =
        (entries events).length + (entries (outsideEvents gap)).length := by
      simp [entries]
    rw [removeBlanks_append, List.length_append, happend]
    omega
  | @tree cs piece pieces events t _ _ _ ih =>
    have hsame : entries (events ++ [.tree t]) = entries events := by simp [entries]
    have hflatten : (pieces ++ [piece]).flatten = pieces.flatten ++ piece := by simp
    rw [hsame, hflatten, removeBlanks_append, removeBlanks_append, List.length_append,
      List.length_append]
    omega

/-- Without entries, only trees were found. -/
theorem eq_map_trees (h : entries events = []) : events = (trees events).map .tree := by
  induction events with
  | nil => rfl
  | cons event events ih =>
    cases event with
    | tree t =>
      have hrest : entries events = [] := by simpa [entries] using h
      have hfirst : trees (.tree t :: events) = t :: trees events := rfl
      rw [hfirst, List.map_cons, ← ih hrest]
    | note entry => simp [entries] at h

/-- Behind a text of which nothing is left over, the reader is outside of trees and has found those
of the text. -/
theorem Reader.Follows.of_complete {r : Reader} (hb : b.opening ≠ b.closing) (h : r.Follows b cs)
    (htop : TopLevel b cs pieces .complete) :
    r.fault = none ∧ r.depth = 0 ∧ ∃ front, front <+: cs ∧ Reports b front pieces r.events := by
  obtain ⟨-, -, front, tail, pieces', rfl, hreports, htail⟩ := h
  cases htail with
  | outside hfault hdepth _ _ hfree =>
    have htop' : TopLevel b (front ++ tail) pieces' .complete :=
      ⟨front ++ tail, [], by simp, hreports.divides.append_gap hfree, rfl⟩
    obtain ⟨rfl, -⟩ := htop.unique hb htop'
    exact ⟨hfault, hdepth, front, List.prefix_append front tail, hreports⟩
  | inside _ _ _ hopen =>
    have htop' : TopLevel b (front ++ tail) pieces' .unclosed :=
      ⟨front, tail, rfl, hreports.divides, hopen⟩
    exact absurd (htop.unique hb htop').2 (by simp)
  | @stopped gap rest _ _ _ hgap htail =>
    have htop' : TopLevel b (front ++ tail) pieces' .unexpected :=
      ⟨front ++ gap, b.closing :: rest, by simp [htail], hreports.divides.append_gap hgap, rest,
        rfl⟩
    exact absurd (htop.unique hb htop').2 (by simp)

/-- The reader finds the trees of a text that is divided into bracketings with nothing but blanks
between them, and nothing else. -/
theorem readLines_of_divides (hb : b.opening ≠ b.closing)
    (hdivides : Divides b (lines.flatMap (· ++ [' '])) pieces)
    (hvisible : removeBlanks (lines.flatMap (· ++ [' '])) = removeBlanks pieces.flatten)
    (hreads : List.Forall₂ (fun piece t =>
      Tree.read (.text (String.ofList piece)) (.text b.text) = ⟨[], .ok t⟩) pieces ts) :
    readLines b lines = (ts.map .tree, none) := by
  have hfollows := (Reader.follows_start b).foldl_line hb lines
  rw [List.nil_append] at hfollows
  obtain ⟨hfault, hdepth, front, hfront, hreports⟩ :=
    hfollows.of_complete hb ⟨_, [], by simp, hdivides, rfl⟩
  have hend : (lines.foldl Reader.line (Reader.start b)).finish =
      lines.foldl Reader.line (Reader.start b) := by
    simp only [Reader.finish, hfault, hdepth, if_true]
  have hentries : entries (lines.foldl Reader.line (Reader.start b)).events = [] := by
    have hcount := hreports.length_entries_le
    have hshort : (removeBlanks front).length ≤ (removeBlanks pieces.flatten).length := by
      rw [← hvisible]
      exact (hfront.sublist.filter _).length_le
    exact List.length_eq_zero_iff.mp (by omega)
  have hunique : Relator.RightUnique fun piece t =>
      Tree.read (.text (String.ofList piece)) (.text b.text) = ⟨[], .ok t⟩ := by
    intro piece t t' ht ht'
    cases ht.symm.trans ht'
    rfl
  have htrees : trees (lines.foldl Reader.line (Reader.start b)).events = ts :=
    List.right_unique_forall₂' hunique hreports.reads hreads
  rw [readLines, hend, hfault, eq_map_trees hentries, htrees]

/-- Trees that can be read back are read from the lines of all that was written for them, in order,
and there is nothing to log. -/
theorem readLines_of_write (hb : b.opening ≠ b.closing)
    (hts : ∀ t ∈ ts, t.isNode = true ∧ t.IsReadable b)
    (hlines : List.Forall₂ (fun t lines => ∃ style : Tree.Style,
      IsLinesOf (style.write b t).toList lines) ts lineses) :
    readLines b lineses.flatten = (ts.map .tree, none) := by
  have hlayouts : List.Forall₂ (fun t lines => ∃ cs, Tree.IsLayout b t cs ∧ IsLinesOf cs lines)
      ts lineses := by
    refine ((List.forall₂_and_left ts lineses).mpr ⟨hts, hlines⟩).imp ?_
    rintro t lines ⟨⟨hnode, hreadable⟩, style, hsplit⟩
    cases t with
    | leaf word => cases hnode
    | node label children =>
      exact ⟨_, Tree.isLayout_write hb hreadable style, hsplit⟩
  obtain ⟨pieces, hdivides, hvisible, hpieces⟩ := exists_divides_of_lines hb hlayouts
  refine readLines_of_divides hb hdivides hvisible ?_
  refine (((List.forall₂_and_left ts pieces).mpr ⟨hts, hpieces⟩).imp ?_).flip
  rintro t piece ⟨⟨hnode, -⟩, hlayout⟩
  cases t with
  | leaf word => cases hnode
  | node label children =>
    change Tree.read _ _ = _
    rw [Tree.read_text hb, String.toList_ofList, hlayout.readChars hb]

/-- Lines of text are read one by one. -/
theorem read_texts (b : Brackets) (lines : List String) :
    Treebank.read (.list (lines.map .text)) (.text b.text) =
      readLines b (lines.map String.toList) := by
  simp only [Treebank.read, readForTree_text, Datum.elements?, foldl_givenLine, readLines]

end Reading

end PhraseStructure.Treebank
