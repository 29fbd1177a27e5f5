import PhraseStructure.Proofs.Command.Numbering
import PhraseStructure.Proofs.Text.Lines

/-!
# Converting trees to text in brackets

In the formats in brackets, the command for trees writes each tree without its number
(`printed_run`). With the trees on single lines or broken over lines, what it printed is a treebank
again, in which the same trees are found (`written_reread`).
-/

namespace PhraseStructure.Command.Convert

open Text Treebank

variable {b : Brackets} {c : Choices} {write : Tree String → String}

/-- Trees as they are printed, each with a line feed behind it. -/
def printed (write : Tree String → String) (ts : List (Tree String)) : List Char :=
  ts.flatMap fun t => (write t).toList ++ ['\n']

/-- Trees are printed one after another. -/
theorem printed_append (ts us : List (Tree String)) :
    printed write (ts ++ us) = printed write ts ++ printed write us := by
  simp [printed]

/-- Each tree is written in one way, whatever its number. -/
def Writes (c : Choices) (write : Tree String → String) : Prop :=
  ∀ n t, Format.ofName c.format >>= Format.render c.enclosure n t = .ok (write t)

/-- The formats in brackets write trees in a style. -/
theorem exists_writes {quiet : Bool} {name : String} (h : name = "bracket" ∨ name = "pprint") :
    ∃ style : Tree.Style,
      Writes ⟨quiet, b.enclosure, name⟩ fun t => style.write b t := by
  rcases h with rfl | rfl
  · exact ⟨.line, fun n t => rfl⟩
  · exact ⟨.broken margin 0, fun n t => rfl⟩

/-- Without numbers, it does not matter from which one on trees are numbered. -/
theorem toList_numbered (n : Nat) (ts : List (Tree String)) :
    (numbered (fun _ => write) n ts).toList = printed write ts := by
  induction ts generalizing n with
  | nil => simp [numbered, printed]
  | cons t ts ih =>
    have hone : (numbered (fun _ => write) n [t]).toList = printed write [t] := by
      simp [numbered, printed]
    rw [← List.singleton_append, numbered_append, String.toList_append, hone, ih, printed_append]

section Rereading

/-- What the command prints are the trees that are found in the lines of its files. -/
theorem printed_run {inputs : Inputs} {args : List String} {a : Arguments}
    (hwrite : Writes ⟨a.isSet "quiet" 'q', b.enclosure, (a.value? "output").getD "summary"⟩ write)
    (hargs : options.read args = .ok a) (hhelp : a.isSet "help" 'h' = false)
    (hbrackets : Brackets.readForTree
      (.text ((a.value? "brackets").getD Brackets.round.text)) = .ok b) :
    (run inputs args).stdout.toList =
      printed write (trees (readLines b (inputLines inputs (Inputs.names a.operands))).1) := by
  rw [stdout_run hwrite hargs hhelp hbrackets, toList_numbered]

/-- Printed trees are divided into the lines of the single ones. -/
theorem linesWithFeed_printed (ts : List (Tree String)) :
    linesWithFeed (printed write ts) =
      (ts.map fun t => (splitAtFeeds (write t).toList).map (· ++ ['\n'])).flatten := by
  induction ts with
  | nil => rfl
  | cons t ts ih =>
    have hfirst : printed write (t :: ts) = (write t).toList ++ '\n' :: printed write ts := by
      simp [printed]
    rw [hfirst, linesWithFeed_append, ih, List.map_cons, List.flatten_cons]

/-- The lines that a text is split into, each with the character that ended it. -/
theorem isLinesOf_map (cs : List Char) :
    IsLinesOf cs ((splitAtFeeds cs).map (· ++ ['\n'])) := by
  rw [IsLinesOf, List.forall₂_map_right_iff, List.forall₂_same]
  exact fun piece _ => .inr rfl

/-- Printed trees that can be read back are found in what was printed. -/
theorem readLines_printed (hb : b.opening ≠ b.closing) (style : Tree.Style)
    {ts : List (Tree String)} (hts : ∀ t ∈ ts, t.isNode = true ∧ t.IsReadable b) :
    readLines b (linesWithFeed (normalizeNewlines (printed (style.write b ·) ts))) =
      (ts.map .tree, none) := by
  have hreturn : '\r' ∉ printed (style.write b ·) ts := by
    simp only [printed, List.mem_flatMap, List.mem_append, List.mem_singleton]
    rintro ⟨t, ht, hmem | hmem⟩
    · exact Tree.return_not_mem_write (hts t ht).2 style hmem
    · exact absurd hmem (by decide)
  rw [normalizeNewlines_eq_self hreturn, linesWithFeed_printed]
  refine readLines_of_write hb hts ?_
  rw [List.forall₂_map_right_iff, List.forall₂_same]
  exact fun t _ => ⟨style, isLinesOf_map _⟩

/-- Whatever the margin and the indent are, a tree is written as it should be if the spaces fit, and
from the lines of all that was written, with or without the characters that end them, the same trees
are read, with nothing to log. In particular, the trees that the command has found are found again
in what it prints. -/
theorem written_reread (b : Brackets) (hb : b.opening ≠ b.closing) :
    (∀ (t : Tree String) (style : Tree.Style),
      (style.Fits → style.render b t = .ok (style.write b t)) ∧
        ∀ s, style.render b t = .ok s → s = style.write b t) ∧
    (∀ (ts : List (Tree String)) (lineses : List (List String)),
      (∀ t ∈ ts, t.isNode = true ∧ t.IsReadable b) →
      List.Forall₂ (fun t lines => ∃ style : Tree.Style,
        IsLinesOf (style.write b t).toList (lines.map String.toList)) ts lineses →
      Treebank.read (.list (lineses.flatten.map .text)) (.text b.text) = (ts.map .tree, none)) ∧
    ∀ (inputs : Inputs) (args : List String) (a : Arguments),
      options.read args = .ok a → a.isSet "help" 'h' = false →
      Brackets.readForTree (.text ((a.value? "brackets").getD Brackets.round.text)) = .ok b →
      a.value? "output" = some "bracket" ∨ a.value? "output" = some "pprint" →
      readLines b (linesWithFeed (normalizeNewlines (run inputs args).stdout.toList)) =
        ((trees (readLines b (inputLines inputs (Inputs.names a.operands))).1).map .tree,
          none) := by
  refine ⟨fun t style => ⟨Tree.render_of_fits b t, fun s => Tree.eq_write_of_render⟩, ?_, ?_⟩
  · intro ts lineses hts hlines
    have hread := readLines_of_write hb hts (List.forall₂_map_right_iff.mpr hlines)
    rw [read_texts, List.map_flatten]
    exact hread
  · intro inputs args a hargs hhelp hbrackets houtput
    obtain ⟨style, hwrite⟩ : ∃ style : Tree.Style, Writes
        ⟨a.isSet "quiet" 'q', b.enclosure, (a.value? "output").getD "summary"⟩
        fun t => style.write b t := by
      refine exists_writes ?_
      rcases houtput with h | h <;> simp [h]
    rw [printed_run hwrite hargs hhelp hbrackets]
    exact readLines_printed hb style (isReadable_of_mem_trees hb _)

/-- A tree that is broken at each of its parts and one on a single line, of which some lines lost
their ends; and the second one, which the command read from a file and printed. -/
theorem written_reread_broken :
    Brackets.round.opening ≠ Brackets.round.closing ∧
      Treebank.read
          (.list [.text "(S\n", .text "  (A", .text "    a)\n", .text "  b)", .text "(C c)"])
          (.text Brackets.round.text) =
        ([.tree (.node "S" [.node "A" [.leaf "a"], .leaf "b"]), .tree (.node "C" [.leaf "c"])],
          none) ∧
      readLines Brackets.round (linesWithFeed (normalizeNewlines
          (run ⟨[("bank", "(C c)\n".toUTF8.toList)], []⟩
            ["--output=pprint", "bank"]).stdout.toList)) =
        ([.tree (.node "C" [.leaf "c"])], none) := by
  have hb : Brackets.round.opening ≠ Brackets.round.closing := by decide
  obtain ⟨-, hread, hrun⟩ := written_reread Brackets.round hb
  have hbroken : IsLinesOf (Tree.Style.write Brackets.round
      (.node "S" [.node "A" [.leaf "a"], .leaf "b"]) (.broken 0 0)).toList
      (["(S\n", "  (A", "    a)\n", "  b)"].map String.toList) := by
    have htext : (Tree.Style.write Brackets.round
        (.node "S" [.node "A" [.leaf "a"], .leaf "b"]) (.broken 0 0)).toList =
        join ['\n'] (["(S", "  (A", "    a)", "  b)"].map String.toList) := by decide +kernel
    rw [htext]
    exact isLinesOf_join (by simp) (by simp) (by simp)
  have hline : ∀ line ∈ ["(C c)", "(C c)\n"], IsLinesOf
      (Tree.Style.write Brackets.round (.node "C" [.leaf "c"]) .line).toList [line.toList] := by
    have htext : (Tree.Style.write Brackets.round (.node "C" [.leaf "c"]) .line).toList =
        join ['\n'] ["(C c)".toList] := by decide +kernel
    rw [htext]
    refine List.forall_mem_cons.mpr ⟨?_, List.forall_mem_singleton.mpr ?_⟩
    · exact isLinesOf_join (by simp) (by simp) (by simp)
    · exact isLinesOf_join (by simp) (by simp) (by simp)
  have hreadable : ∀ t ∈ [Tree.node "S" [.node "A" [.leaf "a"], .leaf "b"],
      .node "C" [.leaf "c"]], t.isNode = true ∧ t.IsReadable Brackets.round := by
    simp [Tree.isNode, Tree.IsReadable, Tree.AreReadable, Brackets.isPlain, isBlank,
      Brackets.round]
  refine ⟨hb, ?_, ?_⟩
  · exact hread _ [["(S\n", "  (A", "    a)\n", "  b)"], ["(C c)"]] hreadable
      (.cons ⟨_, hbroken⟩ (.cons ⟨_, hline "(C c)" (by simp)⟩ .nil))
  · have hargs : options.read ["--output=pprint", "bank"] =
        .ok ⟨[.setting "output" "pprint"], ["bank"]⟩ := by
      simp [options, OptionTable.read, OptionTable.splitName, OptionTable.resolve,
        Arguments.withSetting, Arguments.withOperand, bind, Except.bind, pure, Except.pure]
    have hinput : inputLines ⟨[("bank", "(C c)\n".toUTF8.toList)], []⟩ (Inputs.names ["bank"]) =
        ["(C c)\n".toList] := by decide +kernel
    have hfound : readLines Brackets.round [["(C c)\n".toList]].flatten =
        ([Tree.node "C" [.leaf "c"]].map .tree, none) :=
      readLines_of_write hb (fun t ht => hreadable t (List.mem_cons_of_mem _ ht))
        (.cons ⟨_, hline "(C c)\n" (by simp)⟩ .nil)
    have hlines : [["(C c)\n".toList]].flatten = ["(C c)\n".toList] := rfl
    rw [hrun _ _ _ hargs rfl rfl (.inr rfl), hinput, ← hlines, hfound]
    rfl

end Rereading

end PhraseStructure.Command.Convert
