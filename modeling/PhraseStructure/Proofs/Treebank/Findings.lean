import PhraseStructure.Proofs.Tree.TokenSequence
import PhraseStructure.Proofs.Treebank.Reading

/-!
# What a reader has found

A reader only adds to what was found, so that this may be taken away from it while it reads
(`Reader.foldl_line_after`). Every tree that it finds is a node that can be read back
(`isReadable_of_mem_trees`).
-/

namespace PhraseStructure.Treebank

open Brackets

variable {b : Brackets} {r : Reader} {cs : List Char} {events : List Event}
  {pieces : List (List Char)}

/-- Every tree that was found is a node that can be read back. -/
theorem Reports.isReadable (hb : b.opening ≠ b.closing) (h : Reports b cs pieces events) :
    ∀ t ∈ trees events, t.isNode = true ∧ t.IsReadable b := by
  induction h with
  | nil => simp [trees]
  | outside _ _ ih => simpa [trees_append] using ih
  | @tree cs piece pieces events t _ hpiece hread ih =>
    obtain ⟨hnode, hreadable, -⟩ := Tree.node_of_read hb hpiece hread
    rw [trees_append, List.forall_mem_append]
    exact ⟨ih, by simpa [trees] using ⟨hnode, hreadable⟩⟩

namespace Reader

/-- At the end of the text nothing is found any more. -/
@[simp] theorem events_finish (r : Reader) : r.finish.events = r.events := by
  rw [finish]
  split
  · rfl
  · split
    · rfl
    · split <;> rfl

/-- The reader as if it had found some events before. -/
def after (r : Reader) (found : List Event) : Reader := { r with found := r.found ++ found }

variable (found : List Event)

/-- What was found before does not matter for a tree that is completed. -/
theorem complete_after (text : List Char) :
    (r.after found).complete text = (r.complete text).after found := by
  simp only [complete, after]
  split <;> simp

/-- What was found before makes no difference for a character. -/
theorem step_after (line : List Char) (c : Char × Nat) :
    (r.after found).step line c = (r.step line c).after found := by
  have hfault : (r.after found).fault = r.fault := rfl
  have hbrackets : (r.after found).brackets = r.brackets := rfl
  have hdepth : (r.after found).depth = r.depth := rfl
  have hbroken : (r.after found).broken = r.broken := rfl
  simp only [step, hfault, hbrackets, hdepth, hbroken]
  split
  · rfl
  · by_cases ho : c.1 = r.brackets.opening
    · by_cases hzero : r.depth = 0
      · simp only [if_pos ho, if_pos hzero, after, List.append_assoc]
      · simp only [if_pos ho, if_neg hzero, after]
    · by_cases hc : c.1 = r.brackets.closing
      · simp only [if_neg ho, if_pos hc]
        split
        · rfl
        · by_cases hbroken : r.broken = true
          · simp only [if_pos hbroken, after]
          · simp only [if_neg hbroken]
            exact complete_after found _
        · rfl
      · simp only [if_neg ho, if_neg hc, after]

/-- What was found before does not matter for the end of a line. -/
theorem endLine_after : (r.after found).endLine = r.endLine.after found := by
  have hfault : (r.after found).fault = r.fault := rfl
  have hdepth : (r.after found).depth = r.depth := rfl
  simp only [endLine, hfault, hdepth]
  split
  · rfl
  · by_cases hzero : r.depth = 0
    · simp only [if_pos hzero, after, List.append_assoc]
    · simp only [if_neg hzero, after]

/-- What was found before does not matter for a line. -/
theorem line_after (cs : List Char) : (r.after found).line cs = (r.line cs).after found := by
  have hsteps : ∀ (numbered : List (Char × Nat)) (r : Reader),
      numbered.foldl (step cs) (r.after found) = (numbered.foldl (step cs) r).after found := by
    intro numbered
    induction numbered with
    | nil => exact fun _ => rfl
    | cons c numbered ih =>
      intro r
      rw [List.foldl_cons, step_after, ih, List.foldl_cons]
  rw [line, hsteps, endLine_after, line]

/-- What was found before makes no difference for the reading of lines. -/
theorem foldl_line_after (lines : List (List Char)) :
    lines.foldl line (r.after found) = (lines.foldl line r).after found := by
  induction lines generalizing r with
  | nil => rfl
  | cons cs lines ih => rw [List.foldl_cons, line_after, ih, List.foldl_cons]

/-- After a fault no lines are read. -/
theorem foldl_line_of_fault {fault : Fault} (hfault : r.fault = some fault)
    (lines : List (List Char)) : lines.foldl line r = r := by
  induction lines with
  | nil => rfl
  | cons cs lines ih => rw [List.foldl_cons, line_of_fault hfault, ih]

end Reader

/-- Every tree that is found in some lines is a node that can be read back. -/
theorem isReadable_of_mem_trees (hb : b.opening ≠ b.closing) (lines : List (List Char)) :
    ∀ t ∈ trees (readLines b lines).1, t.isNode = true ∧ t.IsReadable b := by
  have hfollows := (Reader.follows_start b).foldl_line hb lines
  obtain ⟨front, tail, pieces, -, hreports, -⟩ := hfollows.progress
  simpa only [readLines, Reader.events_finish] using hreports.isReadable hb

/-- Lines of text are read to their end, unless brackets are without a counterpart. -/
theorem fault_readLines (hb : b.opening ≠ b.closing) (lines : List (List Char)) :
    (readLines b lines).2 = none ∨
      ∃ cs defect, (readLines b lines).2 = some (malformedTree b cs defect) := by
  obtain ⟨r, hfollows, hlines⟩ := exists_follows_join hb lines
  obtain ⟨-, -, -, -, -, ⟨-, hnone⟩ | ⟨-, hsome⟩⟩ := hfollows.finish
  · exact .inl (by rw [readLines, hlines, hnone])
  · exact .inr (by rwa [readLines, hlines])

end PhraseStructure.Treebank
