import PhraseStructure.Proofs.Grammar.RoundTrip
import PhraseStructure.Proofs.Grammar.Texts
import PhraseStructure.Proofs.Production.Overlap

/-!
# Reading any grammar that was written

A grammar that was put together by any operations may hold symbols that cannot be read. It is read
back from its text exactly if each of its symbols can be (`ReachableFrom.reread_iff`): whatever is
read of a text consists of readable symbols, so that the text of another symbol is not made up for
by other rules. Only the texts of the symbols count (`bucketTexts`). They stay the same under other
brackets, and so do the buckets that are filled, and their order (`map_bucketTexts_addPairs`).
-/

namespace PhraseStructure

open Production Text

variable {g g' : Grammar} {conventions : Conventions} {p : Production} {ps qs : List Production}
  {b : Brackets} {d : String}

namespace Grammar

variable {L L' : List (List Symbol × List Symbol)} {buckets buckets' : List Bucket}
  {head head' : List Symbol} {more more' : List (List Symbol)}
  {pairs pairs' : List (List Symbol × List Symbol)}

section Reading

/-- Productions that are read back one by one are read back from their lines, under the brackets
that they are read with. -/
theorem lineReadings_render (hdelimiter : conventions.delimiter = .text d)
    (hbrackets : conventions.brackets = .text b.text) (hd : '\n' ∉ d.toList)
    (hread : ∀ p ∈ ps, Sides.read (p.render d) d = .ok p.sideTexts) :
    lineReadings conventions (joinStrings "\n" (ps.map (·.render d))) =
      (ps.map (·.under b)).map .ok := by
  have hlines : (ps.map (·.under b)).map (·.render d) = ps.map (·.render d) := by
    rw [List.map_map]
    exact List.map_congr_left fun p _ => render_under p b d
  rw [← hlines]
  refine lineReadings_joinStrings hdelimiter hbrackets hd (List.forall_mem_map.mpr fun p hp => ?_)
  refine ⟨p.render d, ofText_eq_ok_iff.mpr ⟨?_, .of_rebracketed p.head b, .of_rebracketed _ b⟩⟩
  rw [sideTexts_under]
  exact hread p hp

/-- Symbols of one kind are all that is stored exactly if they are all that is given. -/
theorem forall_mem_alphabet_iff (hb : g.conventions.brackets = .text b.text)
    (h : g.productions = .ok ps) (holds : String → Prop) :
    (∀ a ∈ g.alphabet.toList, holds a.text) ↔ ∀ p ∈ ps, ∀ s ∈ p.symbols, holds s.text := by
  have hgiven : (∀ p ∈ ps, ∀ s ∈ p.symbols, holds s.text) ↔ ∀ a ∈ g.occurrences, holds a.text := by
    rw [← List.forall_mem_flatMap, flatMap_symbols hb h, List.forall_mem_map]
    rfl
  rw [hgiven]
  constructor
  · intro hall a ha
    obtain ⟨a', ha', hsame⟩ := exists_mem_distinct ha
    exact Symbol.beq_iff.mp hsame ▸ hall a' ha'
  · intro hall a ha
    exact hall a (mem_of_mem_distinct ha)

/-- Whatever the text, a grammar that is made of it equals only grammars with readable symbols. -/
theorem isReadable_of_remade (hL : Represents g L)
    (hps : g.productions = .ok ps) {b' : Brackets} (hdelimiter : conventions.delimiter = .text d)
    (hbrackets : conventions.brackets = .text b'.text)
    (hsep : conventions.lineSeparator = .text "\n") {t : String}
    (hmade : (make conventions (.given (.text t)) .null).result = .ok g')
    (hequal : g'.equal g = true) :
    ∀ p ∈ ps, ∀ s ∈ p.symbols, IsReadable (removeBlanks d.toList) s.text := by
  intro p hp
  obtain ⟨qs, start, hlines, -, rfl⟩ := (make_text_eq_ok_iff hsep).mp hmade
  have hL' : Represents { (empty conventions).addAll qs with start := start } _ :=
    ((Represents.empty conventions).addAll qs).congr rfl rfl
  have htexts : p.sideTexts ∈ g.pairs.map pairTexts :=
    map_sideTexts_productions hps ▸ List.mem_map_of_mem hp
  have hmade : p.sideTexts ∈ (qs.map sides).map pairTexts :=
    hL'.mem_pairTexts_iff.mp ((hL'.mem_pairTexts_of_equal hL hequal).mpr htexts)
  obtain ⟨e, he, hsame⟩ := List.mem_map.mp hmade
  obtain ⟨q, hq, rfl⟩ := List.mem_map.mp he
  have hmem : Except.ok q ∈ lineReadings conventions t := hlines ▸ List.mem_map_of_mem hq
  obtain ⟨line, -, hline⟩ := List.mem_map.mp hmem
  rw [readRule, empty, hdelimiter, hbrackets] at hline
  have hread : Sides.read line d = .ok p.sideTexts := by
    rw [← hsame]
    exact (ofText_eq_ok_iff.mp hline).1
  exact isReadable_of_read hread

/-- A grammar that is made of productions which are read back, but under other brackets, is equal
and gives the same productions in the same order. -/
theorem exists_remade (hL : Represents g L) (hg : g.IsUsable)
    (hps : g.productions = .ok ps) (hdelimiter : conventions.delimiter = .text d)
    (hbrackets : conventions.brackets = .text b.text)
    (hsep : conventions.lineSeparator = .text "\n") (hd : '\n' ∉ d.toList)
    (hread : ∀ p ∈ ps, Sides.read (p.render d) d = .ok p.sideTexts) :
    ∃ g' ps',
      (make conventions (.given (.text (joinStrings "\n" (ps.map (·.render d))))) .null).result =
        .ok g' ∧ g'.equal g = true ∧ g'.productions = .ok ps' ∧ (ps' == ps) = true := by
  obtain ⟨b', hb'⟩ := hg.brackets_valid
  have hempty : (empty conventions).IsUsable := ⟨⟨b, hbrackets⟩, by simp [empty]⟩
  have husable := hempty.addAll (ps.map (·.under b))
  obtain ⟨s, hs⟩ := exists_defaultStart husable.heads_ne_nil
  have hL' : Represents { (empty conventions).addAll (ps.map (·.under b)) with start := s } _ :=
    ((Represents.empty conventions).addAll (ps.map (·.under b))).congr rfl rfl
  have hmade := (make_text_eq_ok_iff hsep).mpr
    ⟨_, s, lineReadings_render hdelimiter hbrackets hd hread, hs, rfl⟩
  obtain ⟨ps', hps'⟩ := hL'.exists_productions ⟨husable.brackets_valid, husable.heads_ne_nil⟩
  have hpairs : ((ps.map (·.under b)).map sides).map pairTexts = g.pairs.map pairTexts := by
    rw [← map_sideTexts_productions hps, List.map_map, List.map_map]
    exact List.map_congr_left fun p _ => sideTexts_under p b
  have hbuckets : ((empty conventions).addAll (ps.map (·.under b))).buckets.map bucketTexts =
      g.buckets.map bucketTexts := by
    have hagain : addPairs g.pairs [] = g.buckets :=
      addPairs_pairsIn hL.headsDiffer hL.noneEmpty fun _ _ => hasHead_nil
    rw [addAll_buckets, ← hagain]
    exact map_bucketTexts_addPairs hpairs rfl
  refine ⟨_, ps', hmade, hL'.equal_of_bucketTexts hL hbuckets, hps', list_beq_iff.mpr ?_⟩
  have hb : ((empty conventions).addAll (ps.map (·.under b))).conventions.brackets =
      .text b.text := by
    rw [conventions_addAll]
    exact hbrackets
  rw [map_sideTexts_productions hps', map_sideTexts_productions hps]
  exact (map_pairTexts_pairsIn _).trans (hbuckets ▸ (map_pairTexts_pairsIn g.buckets).symm)

end Reading

/-- The text of a grammar with the usual delimiter and one rule a line is read as an equal grammar
exactly if each symbol can be read, that is if none is empty or holds a blank, a comma or the
delimiter. Then the productions are given in the same order. -/
theorem ReachableFrom.reread_iff (h : ReachableFrom IsAccepted g) (hg : g.IsUsable)
    (hdelimiter : g.conventions.delimiter = .text arrow)
    (hsep : g.conventions.lineSeparator = .text "\n") :
    ∃ t ps, g.text = .ok t ∧ g.productions = .ok ps ∧
      ((∃ g', (make {} (.given (.text t)) .null).result = .ok g' ∧ g'.equal g = true) ↔
        ∀ a ∈ g.alphabet.toList, IsReadable (removeBlanks arrow.toList) a.text) ∧
      ∀ g', (make {} (.given (.text t)) .null).result = .ok g' → g'.equal g = true →
        ∃ ps', g'.productions = .ok ps' ∧ (ps' == ps) = true := by
  obtain ⟨L, hL⟩ := h.exists_represents
  obtain ⟨b, hb⟩ := hg.brackets_valid
  obtain ⟨ps, hps⟩ := hL.exists_productions hg
  have hsymbols := forall_mem_alphabet_iff hb hps (IsReadable (removeBlanks arrow.toList))
  have hbrackets : ({} : Conventions).brackets = .text Brackets.square.text := rfl
  have honly : ∀ t g', (make {} (.given (.text t)) .null).result = .ok g' → g'.equal g = true →
      ∀ p ∈ ps, ∀ s ∈ p.symbols, IsReadable (removeBlanks arrow.toList) s.text := by
    intro t g' hmade hequal
    exact isReadable_of_remade hL hps rfl hbrackets rfl hmade hequal
  have hif : (∀ p ∈ ps, ∀ s ∈ p.symbols, IsReadable (removeBlanks arrow.toList) s.text) →
      ∃ g' ps',
        (make {} (.given (.text (joinStrings "\n" (ps.map (·.render arrow))))) .null).result =
          .ok g' ∧ g'.equal g = true ∧ g'.productions = .ok ps' ∧ (ps' == ps) = true := by
    intro hreadable
    refine exists_remade hL hg hps rfl hbrackets rfl (by decide) fun p hp => ?_
    exact read_render_of_isReadable (by decide) (by decide) (by decide) (hreadable p hp)
  refine ⟨_, ps, text_of_productions hdelimiter hsep hps, hps, ?_, ?_⟩
  · rw [hsymbols]
    constructor
    · rintro ⟨g', hmade, hequal⟩
      exact honly _ g' hmade hequal
    · intro hreadable
      obtain ⟨g', -, hmade, hequal, -⟩ := hif hreadable
      exact ⟨g', hmade, hequal⟩
  · intro g' hmade hequal
    obtain ⟨g'', ps', hmade', -, hps', hsame⟩ := hif (honly _ g' hmade hequal)
    cases hmade.symm.trans hmade'
    exact ⟨ps', hps', hsame⟩

/-- A grammar with foreign brackets and two rules around another one, and a grammar with one symbol
whose text goes on with a second rule, so that two rules are read for one. -/
theorem reread_iff_distorted :
    ∃ g h, ReachableFrom IsAccepted g ∧ ReachableFrom IsAccepted h ∧
      g.text = .ok "S --> <x>\nS --> \nT --> -" ∧ h.text = .ok "S --> a\nS-->b" ∧
      (∃ g', (make {} (.given (.text "S --> <x>\nS --> \nT --> -")) .null).result = .ok g' ∧
        g'.equal g = true) ∧
      ¬∃ h', (make {} (.given (.text "S --> a\nS-->b")) .null).result = .ok h' ∧
        h'.equal h = true := by
  let angle : Brackets := ⟨'<', '>', rfl, rfl⟩
  let first : Production := ⟨[⟨"S", angle⟩], [⟨"<x>", angle⟩], by simp⟩
  let second : Production := ⟨[⟨"T", .square⟩], [⟨"-", .square⟩], by simp⟩
  let third : Production := ⟨[⟨"S", .square⟩], [], by simp⟩
  let distorted : Production := ⟨[⟨"S", .square⟩], [⟨"a\nS-->b", .square⟩], by simp⟩
  let g : Grammar := (empty {}).addAll [first, second, third]
  let h : Grammar := (empty {}).addAll [distorted]
  have hmade : IsAccepted (empty {}) := ⟨{}, .given .null, .null, rfl⟩
  have hempty : (empty {}).IsUsable := ⟨⟨.square, rfl⟩, by simp [empty]⟩
  have hg : ReachableFrom IsAccepted g := .step (.initial hmade)
    (.extend _ (.given (.list [.production first, .production second, .production third])))
  have hh : ReachableFrom IsAccepted h := .step (.initial hmade) (.push _ (.production distorted))
  have htext : g.text = .ok "S --> <x>\nS --> \nT --> -" := by cbv
  have htext' : h.text = .ok "S --> a\nS-->b" := by cbv
  obtain ⟨t, -, ht, -, hread, -⟩ := hg.reread_iff (hempty.addAll _) rfl rfl
  obtain ⟨t', -, ht', -, hread', -⟩ := hh.reread_iff (hempty.addAll _) rfl rfl
  cases htext.symm.trans ht
  cases htext'.symm.trans ht'
  refine ⟨g, h, hg, hh, htext, htext', hread.mpr (by decide), fun hagain => ?_⟩
  exact absurd (hread'.mp hagain) (by decide)

end Grammar

end PhraseStructure
