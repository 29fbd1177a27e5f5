import PhraseStructure.Proofs.Text.Quoting
import PhraseStructure.Proofs.Treebank.Findings
import PhraseStructure.Proofs.Treebank.Rereading

/-!
# What becomes of the text of a treebank

Each thing that a reader finds shows a text: a tree the text that it is written as, and an entry the
text that it quotes (`Event.Shows`). Each bracketing is shown by its tree and the text between two
bracketings by an entry, unless it is blank (`Reports.exists_shown`). So, if the reading does not
end in a fault, what is shown is the text of the lines, but for its blanks (`read_accounts`).
-/

namespace PhraseStructure.Treebank

open Brackets Text

variable {b : Brackets} {r : Reader} {cs ds piece : List Char} {event : Event} {events : List Event}
  {pieces : List (List Char)} {t : Tree String}

/-- The text that is shown: what a tree is written as, or what an entry quotes of the text outside
of trees. -/
def Event.Shows (b : Brackets) : Event → List Char → Prop
  | .tree t, cs => t.written (.text b.text) = .ok (String.ofList cs)
  | .note entry, cs => entry =
      ⟨.warning, "ignoring text outside of tree: " ++ String.ofList (quotedChars cs)⟩

/-- The text can be told from the tree or the entry. -/
theorem Event.Shows.unique (h : event.Shows b cs) (h' : event.Shows b ds) : cs = ds := by
  cases event with
  | tree t => exact String.ofList_injective (Except.ok.inj (h.symm.trans h'))
  | note entry =>
    have hmessage := congrArg String.toList (Log.Entry.mk.inj (h.symm.trans h')).2
    simp only [String.toList_append, String.toList_ofList] at hmessage
    exact quotedChars_injective (List.append_cancel_left hmessage)

/-- A bracketing and what is written for its tree are the same but for their blanks. -/
theorem removeBlanks_flat (hb : b.opening ≠ b.closing) (hpiece : b.IsBracketing piece)
    (hread : Tree.read (.text (String.ofList piece)) (.text b.text) = ⟨[], .ok t⟩) :
    removeBlanks (t.flat b.enclosure).toList = removeBlanks piece := by
  obtain ⟨-, hreadable, hscan⟩ := Tree.node_of_read hb hpiece hread
  rw [← Token.flatMap_chars_scan b piece, hscan, ← Tree.scan_flat_eq_tokens hb hreadable,
    Token.flatMap_chars_scan]

/-- What is found in a text shows all of it but its blanks, in order. -/
theorem Reports.exists_shown (hb : b.opening ≠ b.closing) (h : Reports b cs pieces events) :
    ∃ texts, List.Forall₂ (Event.Shows b) events texts ∧
      removeBlanks texts.flatten = removeBlanks cs := by
  induction h with
  | nil => exact ⟨[], .nil, rfl⟩
  | @outside cs gap pieces events _ _ ih =>
    obtain ⟨texts, hshown, hsame⟩ := ih
    by_cases hblank : allBlank gap = true
    · refine ⟨texts, ?_, ?_⟩
      · simpa [outsideEvents, hblank] using hshown
      · rw [hsame, removeBlanks_append, removeBlanks_eq_nil_iff.mpr hblank, List.append_nil]
    · refine ⟨texts ++ [trim gap], ?_, ?_⟩
      · rw [outsideEvents, if_neg hblank]
        exact List.rel_append hshown (.cons rfl .nil)
      · rw [List.flatten_append, List.flatten_singleton, removeBlanks_append, removeBlanks_append,
          removeBlanks_trim, hsame]
  | @tree cs piece pieces events t _ hpiece hread ih =>
    obtain ⟨texts, hshown, hsame⟩ := ih
    refine ⟨texts ++ [(t.flat b.enclosure).toList], List.rel_append hshown (.cons ?_ .nil), ?_⟩
    · rw [Event.Shows, String.ofList_toList]
      exact Tree.written_text b t
    · rw [List.flatten_append, List.flatten_singleton, removeBlanks_append, removeBlanks_append,
        removeBlanks_flat hb hpiece hread, hsame]

/-- Where there is no fault at the end, everything that was read has been found. -/
theorem Reader.Follows.reports_of_finish (h : r.Follows b cs)
    (hnone : r.endLine.finish.fault = none) :
    ∃ pieces, Reports b cs pieces r.endLine.finish.events := by
  obtain ⟨-, hsound, front, tail, pieces, rfl, hreports, htail⟩ := h
  cases htail with
  | outside hfault hdepth _ hpiece hfree =>
    rw [Reader.events_finish, Reader.endLine_outside hfault hdepth]
    refine ⟨pieces, ?_⟩
    simpa [Reader.events, hpiece] using hreports.outside hfree
  | inside hfault hdepth _ hopen =>
    have hpos := hopen.depth_pos tail List.prefix_rfl hopen.ne_nil
    have hne : r.depth ≠ 0 := by omega
    rw [Reader.endLine_inside hfault (by omega)] at hnone
    simp [Reader.finish, hfault, hne, hsound] at hnone
  | stopped hfault =>
    rw [Reader.endLine_of_fault hfault] at hnone
    simp [Reader.finish, hfault] at hnone

/-- The spaces between the lines do not count. -/
theorem removeBlanks_joined (lines : List String) :
    removeBlanks (joined lines) = removeBlanks (lines.map String.toList).flatten := by
  have hjoin : ∀ pieces : List (List Char), join [] pieces = pieces.flatten := by
    intro pieces
    induction pieces with
    | nil => rfl
    | cons piece pieces ih =>
      by_cases hlast : pieces = []
      · subst hlast
        simp [join]
      · rw [join_cons [] piece hlast, ih, List.append_nil, List.flatten_cons]
  have hspace : removeBlanks [' '] = [] := by decide
  rw [joined, removeBlanks_join, hspace, hjoin]
  exact List.filter_flatten.symm

/-- If the reading of some lines does not end in a fault, what was found shows one text each, and
these texts, put together in order, are the lines put together, but for the blanks: each other
character of the lines is in exactly one tree or exactly one entry, and nothing else is. -/
theorem read_accounts (hb : b.opening ≠ b.closing) {lines : List String}
    (hread : Treebank.read (.list (lines.map .text)) (.text b.text) = (events, none)) :
    ∃ texts, (∀ texts', List.Forall₂ (Event.Shows b) events texts' ↔ texts' = texts) ∧
      removeBlanks texts.flatten = removeBlanks (lines.map String.toList).flatten := by
  obtain ⟨r, hfollows, hlines⟩ := exists_follows_join hb (lines.map String.toList)
  rw [read_texts, readLines, hlines, Prod.mk.injEq] at hread
  obtain ⟨rfl, hnone⟩ := hread
  obtain ⟨pieces, hreports⟩ := hfollows.reports_of_finish hnone
  obtain ⟨texts, hshown, hsame⟩ := hreports.exists_shown hb
  have hunique : Relator.RightUnique (Event.Shows b) := fun _ _ _ h h' => h.unique h'
  refine ⟨texts, fun texts' => ⟨fun h => ?_, fun heq => heq ▸ hshown⟩, ?_⟩
  · exact List.right_unique_forall₂' hunique h hshown
  · rw [hsame, ← removeBlanks_joined, joined]

set_option maxRecDepth 2000 in
/-- Text in front of a tree, between two trees and behind the last of them, and a tree that goes on
in another line. -/
theorem read_accounts_mixed :
    Brackets.round.opening ≠ Brackets.round.closing ∧
    ∃ events texts, Treebank.read
        (.list [.text "a (A b) c", .text " (B", .text "d) (C)", .text "e"])
        (.text Brackets.round.text) = (events, none) ∧
      List.Forall₂ (Event.Shows Brackets.round) events texts ∧
      removeBlanks texts.flatten = "a(Ab)c(Bd)(C)e".toList := by
  have hb : Brackets.round.opening ≠ Brackets.round.closing := by decide
  have hread : Treebank.read (.list (["a (A b) c", " (B", "d) (C)", "e"].map .text))
      (.text Brackets.round.text) =
      ([.note ⟨.warning, "ignoring text outside of tree: 'a'"⟩, .tree (.node "A" [.leaf "b"]),
        .note ⟨.warning, "ignoring text outside of tree: 'c'"⟩, .tree (.node "B" [.leaf "d"]),
        .tree (.node "C" []), .note ⟨.warning, "ignoring text outside of tree: 'e'"⟩], none) := by
    cbv
  obtain ⟨texts, hshown, hsame⟩ := read_accounts hb hread
  exact ⟨hb, _, texts, hread, (hshown texts).mpr rfl, hsame.trans (by decide)⟩

end PhraseStructure.Treebank
