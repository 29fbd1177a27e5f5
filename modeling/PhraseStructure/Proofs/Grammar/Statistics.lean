import Mathlib.Algebra.BigOperators.Group.List.Lemmas
import Mathlib.Algebra.GroupWithZero.Nat
import PhraseStructure.Grammar.Summary
import PhraseStructure.Proofs.Grammar.Alike
import PhraseStructure.Proofs.Grammar.Classes
import PhraseStructure.Proofs.Grammar.Lookups

/-!
# The statistics of a grammar

The summary of a grammar that has productions prints some figures (`Figures`), and all of them are
exact (`Represents.figures_areExact`). Productions are counted for every number of daughters up to
the largest, and the numbers that do not occur are left out, so that each number that occurs is
listed once, in increasing order (`mem_distribution_iff`, `pairwise_distribution`), and every
production is counted (`sum_distribution`). Equal grammars under the same brackets give the same
productions, with the heads in any order (`Represents.exists_productions_of_equal`), which does not
show in the figures (`figures_of_perm`).
-/

namespace PhraseStructure

open Production

/-- The total is the sum. -/
theorem Decimal.total_eq_sum (ns : List Nat) : Decimal.total ns = ns.sum := by
  induction ns with
  | nil => rfl
  | cons n ns ih => rw [total, ih, List.sum_cons]

namespace Grammar

variable {g h : Grammar} {L L' : List (List Symbol × List Symbol)} {ps qs : List Production}
  {lengths lengths' : List Nat} {m n k : Nat}

section Distribution

/-- Each length that occurs is listed, with how often it does. -/
theorem mem_distribution_iff :
    (n, k) ∈ distribution lengths ↔ n ∈ lengths ∧ lengths.count n = k := by
  have hbound : n ∈ lengths → n < lengths.max?.getD 0 + 1 :=
    fun hn => Nat.lt_succ_of_le (List.le_max?_getD_of_mem hn)
  have hcount : n ∈ lengths ↔ lengths.count n ≠ 0 := by
    rw [Nat.ne_zero_iff_zero_lt, List.count_pos_iff]
  rw [distribution, List.mem_filter, List.mem_map]
  constructor
  · rintro ⟨⟨n', -, hentry⟩, hk⟩
    obtain ⟨rfl, rfl⟩ := Prod.mk.inj hentry
    exact ⟨hcount.mpr (by simpa using hk), rfl⟩
  · rintro ⟨hn, rfl⟩
    exact ⟨⟨n, List.mem_range.mpr (hbound hn), rfl⟩, by simpa using hcount.mp hn⟩

/-- The lengths are listed in increasing order. -/
theorem pairwise_distribution (lengths : List Nat) :
    (distribution lengths).Pairwise fun entry later => entry.1 < later.1 := by
  refine List.Pairwise.filter _ ?_
  rw [List.pairwise_map]
  exact List.pairwise_lt_range

/-- Every length is listed once. -/
theorem map_fst_distribution_perm (lengths : List Nat) :
    ((distribution lengths).map Prod.fst).Perm lengths.dedup := by
  have hincreasing : ((distribution lengths).map Prod.fst).Pairwise (· < ·) :=
    List.pairwise_map.mpr (pairwise_distribution lengths)
  refine (List.perm_ext_iff_of_nodup hincreasing.nodup lengths.nodup_dedup).mpr fun n => ?_
  rw [List.mem_dedup, List.mem_map]
  constructor
  · rintro ⟨⟨n, k⟩, hentry, rfl⟩
    exact (mem_distribution_iff.mp hentry).1
  · intro hn
    exact ⟨(n, lengths.count n), mem_distribution_iff.mpr ⟨hn, rfl⟩, rfl⟩

/-- All productions are counted. -/
theorem sum_distribution (lengths : List Nat) :
    ((distribution lengths).map Prod.snd).sum = lengths.length := by
  have hcounts : (distribution lengths).map Prod.snd =
      ((distribution lengths).map Prod.fst).map fun n => lengths.count n := by
    rw [List.map_map]
    exact List.map_congr_left fun entry hentry => (mem_distribution_iff.mp hentry).2.symm
  rw [hcounts, ((map_fst_distribution_perm lengths).map _).sum_nat,
    List.sum_map_count_dedup_eq_length]

/-- The longest length comes last. -/
theorem getLast?_distribution (hm : lengths.max? = some m) :
    ((distribution lengths).map Prod.fst).getLast? = some m := by
  have hcount : lengths.count m ≠ 0 := by
    rw [Nat.ne_zero_iff_zero_lt, List.count_pos_iff]
    exact List.max?_mem hm
  -- The range ends with `m`, which occurs and is therefore kept.
  rw [distribution, hm, Option.getD_some, List.range_succ, List.map_append, List.filter_append,
    List.map_singleton, List.filter_cons_of_pos (by simpa using hcount), List.filter_nil,
    List.map_append, List.map_singleton, List.getLast?_concat]

/-- The greatest length does not depend on the order. -/
theorem max?_of_perm (hperm : lengths.Perm lengths') : lengths.max? = lengths'.max? := by
  refine Option.ext fun m => ?_
  rw [List.max?_eq_some_iff, List.max?_eq_some_iff, hperm.mem_iff]
  exact and_congr_right fun _ => forall_congr' fun n => by rw [hperm.mem_iff]

/-- The distribution does not depend on the order of the lengths. -/
theorem distribution_of_perm (hperm : lengths.Perm lengths') :
    distribution lengths = distribution lengths' := by
  rw [distribution, distribution, max?_of_perm hperm]
  simp only [hperm.count_eq]

end Distribution

section Printing

/-- What is printed in the summary of a grammar that has productions. -/
structure Figures where
  productions : Nat
  heads : Nat
  start : String
  terminals : Nat
  nonterminals : Nat
  /-- The mean number of daughters, with six significant digits. -/
  mean : String
  /-- The largest number of daughters. -/
  longest : Nat
  /-- The numbers of daughters, each with the number of productions that have it. -/
  distribution : List (Nat × Nat)
  classes : List (Class × Bool)

/-- The lines in which the figures are printed. -/
def Figures.lines (f : Figures) : List String :=
  ["productions: " ++ toString f.productions ++ ", heads: " ++ toString f.heads ++
      ", start symbol: " ++ f.start,
    "terminals: " ++ toString f.terminals ++ ", non-terminals: " ++ toString f.nonterminals,
    "daughters per production: mean " ++ f.mean ++ ", max " ++ toString f.longest,
    "daughters distribution: " ++ Text.joinStrings ", "
      (f.distribution.map fun (n, k) => toString n ++ ": " ++ toString k)] ++
  f.classes.map classLine

/-- The figures that are printed of some statistics. -/
def Statistics.figures (s : Statistics) : Figures where
  productions := s.productions
  heads := s.heads
  start := (s.start.map Symbol.text).getD "None"
  terminals := s.terminals
  nonterminals := s.nonterminals
  mean := Decimal.general 6 (Decimal.total s.lengths) s.lengths.length
  longest := s.longest
  distribution := Grammar.distribution s.lengths
  classes := s.classes

/-- If there is a production, the lines of the statistics are those of the figures. -/
theorem Statistics.lines_eq {s : Statistics} (hs : s.lengths ≠ []) : s.lines = s.figures.lines := by
  rw [Statistics.lines, lengthLines, List.isEmpty_eq_false_iff.mpr hs, if_neg Bool.false_ne_true]
  rfl

/-- The statistics of a grammar that gives these productions. -/
def statisticsOf (g : Grammar) (ps : List Production) : Statistics where
  productions := g.size
  heads := g.buckets.length
  start := g.start
  terminals := g.terminals.size
  nonterminals := g.nonterminals.size
  lengths := ps.map fun p => p.daughters.length
  classes := Class.all.map fun c => (c, c.holds ps)

/-- If all productions can be read, the statistics are about these. -/
theorem statistics_eq (hps : g.productions = .ok ps) : g.statistics = .ok (g.statisticsOf ps) := by
  rw [statistics, hps, classify_eq hps]
  rfl

/-- If there are productions and all can be read, their figures are printed line by line. -/
theorem summary_eq (hps : g.productions = .ok ps) (hne : ps ≠ []) :
    g.summary = .ok (Text.joinStrings "\n" (g.statisticsOf ps).figures.lines) := by
  have hlengths : (g.statisticsOf ps).lengths ≠ [] := by simpa [statisticsOf] using hne
  rw [summary, statistics_eq hps, ← Statistics.lines_eq hlengths]
  rfl

end Printing

section Exactness

/-- The figures are those of a grammar that gives these productions. -/
structure Figures.AreExact (f : Figures) (g : Grammar) (ps : List Production) : Prop where
  productions : f.productions = ps.length
  /-- Heads that occur several times count once. -/
  heads : f.heads = (distinct (ps.map Production.head)).length
  start : f.start = (g.start.map Symbol.text).getD "None"
  terminals : f.terminals = g.terminals.size
  nonterminals : f.nonterminals = g.nonterminals.size
  /-- Every symbol is counted on one side. -/
  alphabet : f.terminals + f.nonterminals = g.alphabet.size
  mean : f.mean = Decimal.general 6 (ps.map fun p => p.daughters.length).sum ps.length
  longest : ∃ p ∈ ps, p.daughters.length = f.longest
  length_le : ∀ p ∈ ps, p.daughters.length ≤ f.longest
  /-- The lengths that occur are listed, each with the number of productions that have it. -/
  mem_distribution : ∀ n k, (n, k) ∈ f.distribution ↔
    (∃ p ∈ ps, p.daughters.length = n) ∧ ps.countP (·.daughters.length == n) = k
  increasing : f.distribution.Pairwise fun entry later => entry.1 < later.1
  sum_counts : (f.distribution.map Prod.snd).sum = f.productions
  last_length : (f.distribution.map Prod.fst).getLast? = some f.longest
  classes : f.classes = Class.all.map fun c => (c, c.holds ps)

/-- The alphabet has a terminal and a non-terminal part. -/
theorem size_terminals_add_size_nonterminals (g : Grammar) :
    g.terminals.size + g.nonterminals.size = g.alphabet.size :=
  OrderedSet.size_filter_add_size_filter_not Symbol.isTerminal _

/-- There are as many buckets as different heads among the productions. -/
theorem Represents.length_buckets (hL : Represents g L) (hg : g.IsUsable)
    (hps : g.productions = .ok ps) :
    g.buckets.length = (distinct (ps.map Production.head)).length := by
  obtain ⟨b, hb⟩ := hg.brackets_valid
  rw [hL.distinct_heads hb hps, List.length_map, heads, List.length_map]

/-- The figures that are printed are those of the productions. -/
theorem Represents.figures_areExact (hL : Represents g L) (hg : g.IsUsable)
    (hps : g.productions = .ok ps) (hne : ps ≠ []) :
    (g.statisticsOf ps).figures.AreExact g ps := by
  have hlengths : ps.map (fun p => p.daughters.length) ≠ [] := by simpa using hne
  obtain ⟨m, hm⟩ : ∃ m, (ps.map fun p => p.daughters.length).max? = some m :=
    Option.isSome_iff_exists.mp (List.isSome_max?_of_ne_nil hlengths)
  have hlongest : (g.statisticsOf ps).figures.longest = m := by
    change (ps.map fun p => p.daughters.length).max?.getD 0 = m
    rw [hm, Option.getD_some]
  obtain ⟨hmem, hmax⟩ := List.max?_eq_some_iff.mp hm
  rw [List.forall_mem_map] at hmax
  exact {
    productions := (length_productions hps).symm
    heads := hL.length_buckets hg hps
    start := rfl
    terminals := rfl
    nonterminals := rfl
    alphabet := size_terminals_add_size_nonterminals g
    mean := by
      rw [Statistics.figures, Decimal.total_eq_sum]
      simp only [statisticsOf, List.length_map]
    longest := hlongest ▸ List.mem_map.mp hmem
    length_le := hlongest ▸ hmax
    mem_distribution := fun n k => by
      refine mem_distribution_iff.trans ?_
      simp only [statisticsOf, List.mem_map, List.count_eq_countP, List.countP_map]
      rfl
    increasing := pairwise_distribution _
    sum_counts := by
      refine (sum_distribution _).trans ?_
      rw [statisticsOf, List.length_map]
      exact length_productions hps
    last_length := hlongest ▸ getLast?_distribution hm
    classes := rfl }

end Exactness

section Equal

/-- Grammars that store the same texts, under the same brackets, give the same productions. -/
theorem readings_perm (hbrackets : g.conventions.brackets = h.conventions.brackets)
    (hpairs : (g.pairs.map pairTexts).Perm (h.pairs.map pairTexts)) :
    g.readings.Perm h.readings := by
  -- A reading depends on texts only, so that it can be made of any symbols that have these.
  let symbols : List String → List Symbol := fun names => names.map (Symbol.mk · .square)
  have htexts : ∀ names, texts (symbols names) = names := by
    intro names
    rw [texts, List.map_map]
    exact List.map_id names
  have hreadings : ∀ g' : Grammar, g'.readings = (g'.pairs.map pairTexts).map fun sides =>
      rewrap (symbols sides.head) (symbols sides.daughters) g'.conventions.brackets := by
    intro g'
    rw [readings, List.map_map]
    exact List.map_congr_left fun e _ => rewrap_congr_texts (htexts _).symm (htexts _).symm _
  rw [hreadings g, hreadings h, hbrackets]
  exact hpairs.map _

/-- Equal grammars under the same brackets give the same productions, with the heads in any order.
-/
theorem Represents.exists_productions_of_equal (hL : Represents g L) (hL' : Represents h L')
    (hequal : g.equal h = true) (hbrackets : g.conventions.brackets = h.conventions.brackets)
    (hps : g.productions = .ok ps) : ∃ qs, h.productions = .ok qs ∧ ps.Perm qs :=
  exists_mapM_id_of_perm (readings_perm hbrackets (hL.perm_pairTexts_of_equal hL' hequal)) hps

/-- Equal start symbols have the same text. -/
theorem map_text_of_beq {s t : Option Symbol} (h : (s == t) = true) :
    s.map Symbol.text = t.map Symbol.text := by
  cases s with
  | none =>
    cases t with
    | none => rfl
    | some t => cases h
  | some s =>
    cases t with
    | none => cases h
    | some t => rw [Option.map_some, Option.map_some, Symbol.beq_iff.mp h]

/-- The order of the productions does not show in the figures. -/
theorem figures_of_perm (hperm : ps.Perm qs) (hsize : g.size = h.size)
    (hheads : g.buckets.length = h.buckets.length) (hstart : (g.start == h.start) = true) :
    (h.statisticsOf qs).figures = { (g.statisticsOf ps).figures with
      terminals := h.terminals.size
      nonterminals := h.nonterminals.size } := by
  have hlengths : (ps.map fun p => p.daughters.length).Perm
      (qs.map fun p => p.daughters.length) := hperm.map _
  have hclasses : ∀ c : Class, c.holds ps = c.holds qs :=
    Class.holds_congr fun p => hperm.mem_iff
  simp only [Statistics.figures, statisticsOf, Statistics.longest, Decimal.total_eq_sum, hsize,
    hheads, map_text_of_beq hstart, hclasses, hlengths.sum_nat, hlengths.length_eq,
    max?_of_perm hlengths, distribution_of_perm hlengths]

end Equal

/-- The summary of a grammar that was reached by any operations, under valid brackets and with a
symbol in each head, and that has a production: all figures in it are exact. An equal grammar, which
need not have its heads in the same order, has the same summary under the same brackets and with the
same start symbol, but for the numbers of terminals and non-terminals. -/
theorem ReachableFrom.summary_laws (hg : ReachableFrom IsAccepted g) (husable : g.IsUsable)
    (hsome : g.size ≠ 0) :
    ∃ ps s, g.productions = .ok ps ∧ g.statistics = .ok s ∧
      g.summary = .ok (Text.joinStrings "\n" s.figures.lines) ∧ s.figures.AreExact g ps ∧
      ∀ h, ReachableFrom IsAccepted h → g.equal h = true →
        g.conventions.brackets = h.conventions.brackets → (g.start == h.start) = true →
        h.summary = .ok (Text.joinStrings "\n" { s.figures with
          terminals := h.terminals.size
          nonterminals := h.nonterminals.size }.lines) := by
  obtain ⟨L, hL⟩ := hg.exists_represents
  obtain ⟨ps, hps⟩ := hL.exists_productions husable
  have hne : ps ≠ [] := by
    rw [← List.length_pos_iff, length_productions hps]
    omega
  refine ⟨ps, g.statisticsOf ps, hps, statistics_eq hps, summary_eq hps hne,
    hL.figures_areExact husable hps hne, ?_⟩
  intro h hh hequal hbrackets hstart
  obtain ⟨L', hL'⟩ := hh.exists_represents
  obtain ⟨qs, hqs, hperm⟩ := hL.exists_productions_of_equal hL' hequal hbrackets hps
  have hsize : g.size = h.size := by
    rw [← length_productions hps, ← length_productions hqs, hperm.length_eq]
  have hheads : g.buckets.length = h.buckets.length := by
    rw [equal, Bool.and_eq_true, beq_iff_eq] at hequal
    exact hequal.1
  have hne' : qs ≠ [] := by
    rintro rfl
    exact hne hperm.eq_nil
  rw [summary_eq hqs hne', figures_of_perm hperm hsize hheads hstart]

/-- A grammar with a rule that occurs twice, one without daughters and none with two. The other one
was made in another order, and of one of its rules under other brackets, so that it holds a terminal
as a non-terminal. -/
theorem summary_laws_reordered :
    ∃ (g h : Grammar) (ps : List Production) (s : Statistics), ReachableFrom IsAccepted g ∧
      ReachableFrom IsAccepted h ∧ g.IsUsable ∧ g.size ≠ 0 ∧ g.equal h = true ∧
      g.conventions.brackets = h.conventions.brackets ∧ (g.start == h.start) = true ∧
      (g.heads == h.heads) = false ∧ g.productions = .ok ps ∧ g.statistics = .ok s ∧
      s.figures.AreExact g ps ∧ g.summary = .ok (Text.joinStrings "\n" s.figures.lines) ∧
      s.figures.lines.take 4 =
        ["productions: 4, heads: 2, start symbol: S",
          "terminals: 3, non-terminals: 2",
          "daughters per production: mean 1.25, max 3",
          "daughters distribution: 0: 1, 1: 2, 3: 1"] ∧
      h.summary = .ok (Text.joinStrings "\n"
        { s.figures with terminals := 2, nonterminals := 3 }.lines) := by
  let first : Symbol := ⟨"S", .square⟩
  let second : Symbol := ⟨"B", .square⟩
  let word : Symbol := ⟨"[b]", .square⟩
  let foreign : Symbol := ⟨"[b]", ⟨'<', '>', rfl, rfl⟩⟩
  let empty : Production := ⟨[first], [], by simp⟩
  let long : Production := ⟨[first], [⟨"[a]", .square⟩, second, ⟨"[c]", .square⟩], by simp⟩
  let lexical : Production := ⟨[second], [word], by simp⟩
  let other : Production := ⟨[second], [foreign], by simp⟩
  let g : Grammar :=
    { (Grammar.empty {}).addAll [empty, lexical, long, lexical] with start := some first }
  let h : Grammar :=
    { (Grammar.empty {}).addAll [other, lexical, empty, long] with start := some first }
  have hmake : (make {} (.given (.list [.production empty, .production lexical, .production long,
      .production lexical])) .null).result = .ok g := rfl
  have hmake' : (make {} (.given (.list [.production other, .production lexical, .production empty,
      .production long])) (.text "S")).result = .ok h := by cbv
  have hg : ReachableFrom IsAccepted g := .initial ⟨_, _, _, hmake⟩
  have hh : ReachableFrom IsAccepted h := .initial ⟨_, _, _, hmake'⟩
  have husable : g.IsUsable :=
    ⟨⟨.square, rfl⟩, by simp [g, add, Grammar.empty, empty, lexical, long]⟩
  have hsome : g.size ≠ 0 := by decide
  have hiterated : g.productions = .ok [empty, long, lexical, lexical] := rfl
  have hprinted : (g.statisticsOf [empty, long, lexical, lexical]).figures.lines.take 4 =
      ["productions: 4, heads: 2, start symbol: S",
        "terminals: 3, non-terminals: 2",
        "daughters per production: mean 1.25, max 3",
        "daughters distribution: 0: 1, 1: 2, 3: 1"] := by decide +kernel
  have hsame : g.equal h = true := by decide
  have hterminals : h.terminals.size = 2 := by decide
  have hnonterminals : h.nonterminals.size = 3 := by decide
  obtain ⟨ps, s, hps, hs, hsummary, hexact, hequal⟩ := hg.summary_laws husable hsome
  cases (statistics_eq hiterated).symm.trans hs
  have hsummary' := hequal h hh hsame rfl rfl
  rw [hterminals, hnonterminals] at hsummary'
  exact ⟨g, h, ps, _, hg, hh, husable, hsome, hsame, rfl, rfl, by decide, hps, hs, hexact, hsummary,
    hprinted, hsummary'⟩

end Grammar

end PhraseStructure
