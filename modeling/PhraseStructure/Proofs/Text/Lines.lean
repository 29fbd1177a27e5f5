import PhraseStructure.Text.Lines
import PhraseStructure.Proofs.Text.Cut

/-!
# Lines of a text

The lines of a text, each with its line feed, are the pieces between the line feeds
(`linesWithFeed_append`). Reading carriage returns as line feeds changes nothing where there are
none (`normalizeNewlines_eq_self`).
-/

namespace PhraseStructure.Text

variable {cs piece : List Char} {pieces : List (List Char)}

/-- The pieces of a text between line feeds. -/
def splitAtFeeds (cs : List Char) : List (List Char) := splitOn ['\n'] (List.cons_ne_nil _ _) cs

/-- There is always a piece. -/
theorem splitAtFeeds_ne_nil (cs : List Char) : splitAtFeeds cs ≠ [] := splitOn_ne_nil _ cs

/-- The pieces between line feeds make up the text. -/
theorem join_splitAtFeeds (cs : List Char) : join ['\n'] (splitAtFeeds cs) = cs :=
  join_splitOn ['\n'] _ cs

/-- No piece between line feeds holds one. -/
theorem not_mem_of_mem_splitAtFeeds (h : piece ∈ splitAtFeeds cs) : '\n' ∉ piece := by
  rw [← List.singleton_infix_iff]
  exact not_infix_of_mem_splitOn h

/-- Pieces without line feeds are found again between line feeds. -/
theorem splitAtFeeds_join (hne : pieces ≠ []) (h : ∀ piece ∈ pieces, '\n' ∉ piece) :
    splitAtFeeds (join ['\n'] pieces) = pieces := by
  refine splitOn_join (isUnbordered_singleton '\n') hne fun piece hpiece => ?_
  rw [List.singleton_infix_iff]
  exact h piece hpiece

/-- A text without carriage returns is left as it is. -/
theorem normalizeNewlines_eq_self (h : '\r' ∉ cs) : normalizeNewlines cs = cs := by
  fun_induction normalizeNewlines cs with
  | case1 => rfl
  | case2 cs ih => simp at h
  | case3 c cs _ ih =>
    obtain ⟨hc, hcs⟩ := not_or.mp (mt List.mem_cons.mpr h)
    rw [ih hcs, if_neg (Ne.symm hc)]

/-- A line goes on up to the next line feed. -/
theorem linesWithFeedFrom_append (h : '\n' ∉ cs) (line rest : List Char) :
    linesWithFeedFrom (cs ++ '\n' :: rest) line =
      (line.reverse ++ cs ++ ['\n']) :: linesWithFeed rest := by
  induction cs generalizing line with
  | nil => simp [linesWithFeedFrom, linesWithFeed]
  | cons c cs ih =>
    obtain ⟨hc, hcs⟩ := not_or.mp (mt List.mem_cons.mpr h)
    rw [List.cons_append, linesWithFeedFrom, if_neg (Ne.symm hc), ih hcs]
    simp

/-- Pieces with line feeds between them and behind them are lines. -/
theorem linesWithFeed_join (hne : pieces ≠ []) (h : ∀ piece ∈ pieces, '\n' ∉ piece)
    (rest : List Char) :
    linesWithFeed (join ['\n'] pieces ++ '\n' :: rest) =
      pieces.map (· ++ ['\n']) ++ linesWithFeed rest := by
  induction pieces with
  | nil => exact absurd rfl hne
  | cons first pieces ih =>
    obtain ⟨hfirst, hrest⟩ := List.forall_mem_cons.mp h
    by_cases hlast : pieces = []
    · subst hlast
      exact linesWithFeedFrom_append hfirst [] rest
    · rw [join_cons ['\n'] first hlast, List.append_assoc, List.append_assoc,
        List.singleton_append, linesWithFeed, linesWithFeedFrom_append hfirst, ih hlast hrest]
      rfl

/-- The lines of a text that ends with a line feed, and those of the text behind it. -/
theorem linesWithFeed_append (cs rest : List Char) :
    linesWithFeed (cs ++ '\n' :: rest) =
      (splitAtFeeds cs).map (· ++ ['\n']) ++ linesWithFeed rest := by
  rw [← linesWithFeed_join (splitAtFeeds_ne_nil cs) fun _ => not_mem_of_mem_splitAtFeeds,
    join_splitAtFeeds]

end PhraseStructure.Text
