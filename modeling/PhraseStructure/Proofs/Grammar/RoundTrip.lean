import Mathlib.Data.List.Permutation
import PhraseStructure.Grammar.Summary
import PhraseStructure.Proofs.Grammar.Regrouping

/-!
# Reading a grammar that was written

A grammar that was read from text is written bucket by bucket, and not in the order of its rules,
and each rule is written as it is read and not as it stood there. What is written is a normal form:
it is read again, as an equal grammar with the same productions in the same order and the same start
symbol, and written as the same text (`exists_reread`). This holds for every delimiter that does not
break a line.
-/

namespace PhraseStructure.Grammar

open Text

variable {g g' : Grammar} {conventions : Conventions} {L : List (List Symbol × List Symbol)}
  {t d : String} {b : Brackets} {lines : List String} {ps : List Production}

section Lines

/-- The lines of a text that are not blank. -/
def ruleLines (t : String) : List String :=
  ((splitOn ['\n'] (by simp) t.toList).filter (!allBlank ·)).map String.ofList

/-- With the line feed as the separator, the rules of a text are its lines that are not blank. -/
theorem ofText_newline (t : String) :
    Rules.ofText t (.text "\n") = .ok ((ruleLines t).map .text) := by
  rw [Rules.ofText, ruleLines, List.map_map]
  rfl

/-- Of a text that is joined of lines, those are found again that are not blank. -/
theorem ruleLines_join (h : ∀ line ∈ lines, '\n' ∉ line.toList) :
    ruleLines (joinStrings "\n" lines) = lines.filter (!allBlank ·.toList) := by
  have hchars : (joinStrings "\n" lines).toList = join ['\n'] (lines.map String.toList) := by
    rw [joinStrings, String.toList_ofList]
    rfl
  rw [ruleLines, hchars]
  by_cases hnil : lines = []
  · subst hnil
    rw [List.map_nil, join, splitOn_of_cut?_eq_none (by rfl)]
    rfl
  · have hwhole : ∀ piece ∈ lines.map String.toList, ¬['\n'] <:+: piece := by
      rw [List.forall_mem_map]
      intro line hline
      rw [List.singleton_infix_iff]
      exact h line hline
    rw [splitOn_join (isUnbordered_singleton '\n') (by simpa using hnil) hwhole, List.filter_map,
      List.map_map]
    simp [Function.comp_def]

/-- Lines that are not blank are found again in the text that is joined of them. -/
theorem ruleLines_joinStrings
    (h : ∀ line ∈ lines, '\n' ∉ line.toList ∧ allBlank line.toList = false) :
    ruleLines (joinStrings "\n" lines) = lines := by
  rw [ruleLines_join fun line hline => (h line hline).1, List.filter_eq_self]
  intro line hline
  rw [(h line hline).2, Bool.not_false]

end Lines

section Making

/-- Rules in text are read line by line. -/
theorem extend_text (hsep : g.conventions.lineSeparator = .text "\n") (t : String) :
    g.extend (.given (.text t)) =
      g.addReadings ((ruleLines t).map fun line => g.readRule (.text line)) := by
  have hreadings : (Rules.given (.text t)).readings g =
      .ok ((ruleLines t).map fun line => g.readRule (.text line)) := by
    rw [Rules.readings, hsep, ofText_newline]
    exact congrArg Except.ok List.map_map
  rw [extend, hreadings]
  exact fun h => by cases h

/-- The lines of a text one by one, read as rules. -/
def lineReadings (conventions : Conventions) (t : String) : List (Except Fault Production) :=
  (ruleLines t).map fun line => (empty conventions).readRule (.text line)

/-- The grammar of a text is filled with its lines one by one. -/
theorem collect_text (hsep : conventions.lineSeparator = .text "\n") (t : String) :
    collect conventions (.given (.text t)) =
      (empty conventions).addReadings (lineReadings conventions t) :=
  extend_text hsep t

/-- A grammar is made of a text exactly if all lines that are not blank are rules, and a start
symbol can be chosen. -/
theorem make_text_iff {start : Datum} (hsep : conventions.lineSeparator = .text "\n") :
    (make conventions (.given (.text t)) start).result = .ok g ↔
      ∃ ps, lineReadings conventions t = ps.map .ok ∧
        ((empty conventions).addAll ps).chooseStart start = .ok g := by
  rw [result_make, collect_text hsep, bind_eq_ok_iff]
  constructor
  · rintro ⟨_, hall, h⟩
    obtain ⟨ps, hgrammar, hread⟩ :=
      exists_addReadings (empty conventions) (lineReadings conventions t)
    exact ⟨ps, hread hall, hgrammar ▸ h⟩
  · rintro ⟨ps, hread, h⟩
    rw [hread, addReadings_map_ok]
    exact ⟨(), rfl, h⟩

/-- A grammar is made of a text if all lines can be read and a start symbol is found. -/
theorem make_text_eq_ok_iff (hsep : conventions.lineSeparator = .text "\n") :
    (make conventions (.given (.text t)) .null).result = .ok g ↔
      ∃ ps s, lineReadings conventions t = ps.map .ok ∧
        ((empty conventions).addAll ps).defaultStart = .ok s ∧
        g = { (empty conventions).addAll ps with start := s } := by
  rw [make_text_iff hsep]
  constructor
  · rintro ⟨ps, hread, h⟩
    obtain ⟨s, hs, hg⟩ := bind_eq_ok_iff.mp h
    exact ⟨ps, s, hread, hs, (Except.ok.inj hg).symm⟩
  · rintro ⟨ps, s, hread, hs, rfl⟩
    exact ⟨ps, hread, bind_eq_ok_iff.mpr ⟨s, hs, rfl⟩⟩

end Making

section Comparing

/-- Grammars with the same buckets are equal. -/
theorem Represents.equal_of_buckets (h : Represents g L) (hbuckets : g'.buckets = g.buckets) :
    g'.equal g = true := by
  rw [equal, hbuckets, Bool.and_eq_true, List.all_eq_true]
  refine ⟨BEq.rfl, fun bucket hmem => ?_⟩
  rw [Bool.and_eq_true, List.any_eq_true]
  refine ⟨⟨bucket, hmem, BEq.rfl⟩, ?_⟩
  rw [daughtersOf, lookup_of_mem h.headsDiffer hmem]
  exact BEq.rfl

/-- The productions are read from the buckets under the conventions, whatever the start symbol
is. -/
theorem productions_congr (hconventions : g'.conventions = g.conventions)
    (hbuckets : g'.buckets = g.buckets) : g'.productions = g.productions := by
  simp only [productions, readings, pairs, hconventions, hbuckets]

end Comparing

section Writing

/-- The productions that the grammar holds are those that it gives. -/
theorem productions_of_sides (hbrackets : g.conventions.brackets = .text b.text)
    (hsides : ps.map Production.sides = g.pairs)
    (hunder : ∀ p ∈ ps, AreUnder b p.head ∧ AreUnder b p.daughters) : g.productions = .ok ps := by
  refine mapM_id_eq_ok_iff.mpr ?_
  rw [readings, ← hsides, hbrackets, List.map_map]
  exact List.map_congr_left fun p hp =>
    Production.rewrap_of_areUnder (hunder p hp).1 (hunder p hp).2

/-- A grammar is written as one line for each production, in the order of iteration. -/
theorem text_of_productions (hdelimiter : g.conventions.delimiter = .text d)
    (hsep : g.conventions.lineSeparator = .text "\n") (h : g.productions = .ok ps) :
    g.text = .ok (joinStrings "\n" (ps.map (·.render d))) := by
  simp only [text, render, ruleTexts, hsep, hdelimiter, h]
  rfl

/-- Productions that were read from rules are read again from the lines that they are written as. -/
theorem lineReadings_joinStrings (hdelimiter : conventions.delimiter = .text d)
    (hbrackets : conventions.brackets = .text b.text) (hd : '\n' ∉ d.toList)
    (hread : ∀ p ∈ ps, ∃ line,
      Production.ofText (.text line) (.text d) (.text b.text) = .ok p) :
    lineReadings conventions (joinStrings "\n" (ps.map (·.render d))) = ps.map .ok := by
  have hlines : ∀ line ∈ ps.map (·.render d),
      '\n' ∉ line.toList ∧ allBlank line.toList = false := by
    rw [List.forall_mem_map]
    intro p hp
    obtain ⟨line, hline⟩ := hread p hp
    have hsides := (Production.ofText_eq_ok_iff.mp hline).1
    exact ⟨Production.newline_not_mem_render hsides hd, Production.not_allBlank_render hsides⟩
  rw [lineReadings, ruleLines_joinStrings hlines, List.map_map]
  refine List.map_congr_left fun p hp => ?_
  obtain ⟨line, hline⟩ := hread p hp
  obtain ⟨hsides, hunder⟩ := Production.ofText_eq_ok_iff.mp hline
  have hagain : Production.ofText (.text (p.render d)) (.text d) (.text b.text) = .ok p :=
    Production.ofText_eq_ok_iff.mpr ⟨Production.read_render_of_read hsides, hunder⟩
  rw [← hdelimiter, ← hbrackets] at hagain
  exact hagain

end Writing

/-- The grammar that is read from a text is written as a text from which an equal grammar is read,
with the same productions in the same order and the same start symbol, and which is written as the
same text. -/
theorem exists_reread (hd : '\n' ∉ d.toList)
    (h : (make { delimiter := .text d, brackets := .text b.text } (.given (.text t)) .null).result =
      .ok g) :
    ∃ ps s g', g.productions = .ok ps ∧ g.text = .ok s ∧
      (make { delimiter := .text d, brackets := .text b.text } (.given (.text s)) .null).result =
        .ok g' ∧
      g'.equal g = true ∧ g'.productions = .ok ps ∧ g'.start = g.start ∧ g'.text = .ok s := by
  obtain ⟨ps, start, hread, hstart, rfl⟩ := (make_text_eq_ok_iff rfl).mp h
  have hrules : ∀ p ∈ ps, ∃ line,
      Production.ofText (.text line) (.text d) (.text b.text) = .ok p := by
    intro p hp
    have hmem : Except.ok p ∈ ps.map (Except.ok : Production → Except Fault Production) :=
      List.mem_map_of_mem hp
    rw [← hread] at hmem
    obtain ⟨line, -, hline⟩ := List.mem_map.mp hmem
    exact ⟨line, hline⟩
  have hunder : ∀ p ∈ ps, AreUnder b p.head ∧ AreUnder b p.daughters := by
    intro p hp
    obtain ⟨line, hline⟩ := hrules p hp
    exact (Production.ofText_eq_ok_iff.mp hline).2
  let conventions : Conventions := { delimiter := .text d, brackets := .text b.text }
  obtain ⟨qs, hsides, hmem, hbuckets, hdefault⟩ :=
    exists_regrouped conventions fun p hp => (hunder p hp).1
  have hL := (Represents.empty conventions).addAll ps
  have hconventions : ∀ ps, ((empty conventions).addAll ps).conventions = conventions :=
    fun ps => conventions_addAll ps
  have hproductions :
      productions { (empty conventions).addAll ps with start := start } = .ok qs :=
    productions_of_sides (by rw [hconventions]) hsides fun q hq => hunder q (hmem q hq)
  have hsame : productions { (empty conventions).addAll qs with start := start } = .ok qs :=
    (productions_congr ((hconventions qs).trans (hconventions ps).symm) hbuckets).trans hproductions
  refine ⟨qs, _, _, hproductions,
    text_of_productions (by rw [hconventions]) (by rw [hconventions]) hproductions,
    (make_text_eq_ok_iff rfl).mpr
      ⟨qs, start, lineReadings_joinStrings rfl rfl hd fun q hq => hrules q (hmem q hq),
        hdefault.trans hstart, rfl⟩,
    (hL.congr rfl rfl).equal_of_buckets hbuckets, hsame, rfl,
    text_of_productions (by rw [hconventions]) (by rw [hconventions]) hsame⟩

/-- A delimiter that holds a blank and overlaps with itself and with a daughter, and two rules with
one head around another rule. -/
theorem exists_reread_overlapping :
    ∃ g g', (make { delimiter := .text "= =", brackets := .text Brackets.square.text }
        (.given (.text "S===a\nT==\nS==b")) .null).result = .ok g ∧
      g.text = .ok "S = = =a\nS = = b\nT = = " ∧
      (make { delimiter := .text "= =", brackets := .text Brackets.square.text }
        (.given (.text "S = = =a\nS = = b\nT = = ")) .null).result = .ok g' ∧
      g'.equal g = true ∧ g'.text = .ok "S = = =a\nS = = b\nT = = " := by
  let g : Grammar :=
    { conventions := { delimiter := .text "= =", brackets := .text Brackets.square.text }
      buckets := [([⟨"S", .square⟩], [[⟨"=a", .square⟩], [⟨"b", .square⟩]]),
        ([⟨"T", .square⟩], [[]])]
      additions := [[⟨"S", .square⟩], [⟨"T", .square⟩], [⟨"S", .square⟩]]
      start := some ⟨"S", .square⟩ }
  have hmade : (make { delimiter := .text "= =", brackets := .text Brackets.square.text }
      (.given (.text "S===a\nT==\nS==b")) .null).result = .ok g := by cbv
  have htext : g.text = .ok "S = = =a\nS = = b\nT = = " := by cbv
  obtain ⟨ps, s, g', -, hs, hagain, hequal, -, -, hs'⟩ := exists_reread (by decide) hmade
  cases htext.symm.trans hs
  exact ⟨g, g', hmade, htext, hagain, hequal, hs'⟩

end PhraseStructure.Grammar
