import PhraseStructure.Proofs.Grammar.Equality
import PhraseStructure.Proofs.Grammar.Regrouping
import PhraseStructure.Proofs.Grammar.Terminals

/-!
# The union of grammars

A union copies one grammar and adds the productions of the other in the order of their iteration.
Under each head it holds the daughters of the first grammar, and behind them those of the second
(`IsUnion.daughters`), whatever the orders of addition were. So the laws of union are those of
appending lists, head by head (`IsReachedUnder.union_laws`).
-/

namespace PhraseStructure.Grammar

open Production

variable {a b c u : Grammar} {g : Grammar} {br : Brackets} {s : Symbol} {head d : List Symbol}
  {rules : Rules} {ps : List Production} {start : Option Symbol}

/-- The first grammar holds the productions of the two others, and it starts where the one of them
does that comes first and has a start symbol among its non-terminals. -/
structure IsUnion (u a b : Grammar) : Prop where
  daughters : ∀ head, u.daughtersOf head = a.daughtersOf head ++ b.daughtersOf head
  heads : u.heads = a.heads ++ b.heads.filter fun head => !a.heads.contains head
  size : u.size = a.size + b.size
  start_kept : ∀ s, a.start = some s → a.nonterminals.contains s = true → u.start = some s
  start_taken : ∀ s, a.start = none → b.start = some s → b.nonterminals.contains s = true →
    u.start = some s

/-- Reached by operations, with a symbol in each head, and with all symbols under one pair of
brackets, that of the grammar. -/
structure IsReachedUnder (br : Brackets) (g : Grammar) : Prop where
  reached : ReachableFrom IsAccepted g
  usable : g.IsUsable
  isUnder : IsUnder br g

section Storing

/-- What is stored under one pair of brackets is what is found under the heads. -/
theorem IsUnder.mem_pairs_iff (h : IsUnder br g) (hdiffer : HeadsDiffer g.buckets) :
    (head, d) ∈ g.pairs ↔ AreUnder br head ∧ d ∈ g.daughtersOf head := by
  have hheads : ∀ e ∈ g.pairs, AreUnder br e.1 := by
    intro e he
    obtain ⟨bucket, hbucket, hpair⟩ := List.mem_flatMap.mp he
    obtain ⟨d, -, rfl⟩ := List.mem_map.mp hpair
    exact (h.buckets bucket hbucket).1
  have hfound : d ∈ g.daughtersOf head ↔ ∃ e ∈ g.pairs, (e.1 == head) = true ∧ e.2 = d := by
    rw [daughtersOf, ← filter_pairsIn hdiffer, List.mem_map]
    simp only [List.mem_filter, and_assoc]
    rfl
  rw [hfound]
  constructor
  · intro hmem
    exact ⟨hheads _ hmem, _, hmem, BEq.rfl, rfl⟩
  · rintro ⟨hhead, e, he, hsame, rfl⟩
    rwa [← (hheads e he).eq_of_beq hhead hsame]

/-- Under its own brackets a grammar gives the productions as it stores them. -/
theorem IsUnder.map_sides (h : IsUnder br g) (hps : g.productions = .ok ps) :
    ps.map sides = g.pairs := by
  rw [map_sides_productions h.brackets_eq hps]
  conv_rhs => rw [← List.map_id g.pairs]
  refine List.map_congr_left fun e he => ?_
  obtain ⟨bucket, hbucket, hpair⟩ := List.mem_flatMap.mp he
  obtain ⟨d, hd, rfl⟩ := List.mem_map.mp hpair
  obtain ⟨hhead, hdaughters⟩ := h.buckets bucket hbucket
  rw [hhead.map_rebracketed, (hdaughters d hd).map_rebracketed]
  rfl

/-- A symbol that stands somewhere in a grammar as a non-terminal is one of the grammar. -/
theorem IsUnder.contains_nonterminals_iff (h : IsUnder br g) :
    g.nonterminals.contains s = true ↔
      ∃ a ∈ g.occurrences, (a == s) = true ∧ a.isNonterminal = true := by
  constructor
  · exact exists_occurrence
  · rintro ⟨a, ha, hsame, hnon⟩
    refine contains_nonterminals ha hsame hnon fun a' ha' _ => ?_
    rw [h.areUnder_occurrences a ha, h.areUnder_occurrences a' ha']

/-- The non-terminals of a grammar stay non-terminals where further symbols are stored under the
same brackets. -/
theorem IsUnder.contains_nonterminals_of_subset (hu : IsUnder br u)
    (hsub : g.occurrences ⊆ u.occurrences) (h : g.nonterminals.contains s = true) :
    u.nonterminals.contains s = true := by
  obtain ⟨x, hx, hsame, hnon⟩ := exists_occurrence h
  exact hu.contains_nonterminals_iff.mpr ⟨x, hsub hx, hsame, hnon⟩

end Storing

section Joining

/-- A start symbol that is a non-terminal is kept. -/
theorem start_of_inheritStart (h : g.inheritStart start = .ok u) (hstart : start = some s)
    (hs : g.nonterminals.contains s = true) : u.start = some s := by
  subst hstart
  simp only [inheritStart, hs, if_true] at h
  cases h
  rfl

/-- If all daughters of a grammar are those of another one, so are all its symbols. -/
theorem occurrences_subset (hu : IsUnder br u) (hg : IsUnder br g) (hdiffer : HeadsDiffer u.buckets)
    (hdiffer' : HeadsDiffer g.buckets)
    (hsub : ∀ head, g.daughtersOf head ⊆ u.daughtersOf head) : g.occurrences ⊆ u.occurrences := by
  intro s hs
  obtain ⟨⟨head, d⟩, hpair, hmem⟩ := List.mem_flatMap.mp hs
  obtain ⟨hhead, hd⟩ := (hg.mem_pairs_iff hdiffer').mp hpair
  exact List.mem_flatMap.mpr ⟨(head, d), (hu.mem_pairs_iff hdiffer).mpr ⟨hhead, hsub head hd⟩, hmem⟩

/-- Behind what is found under a head in one grammar stands what is found there in the other, whose
productions were added. -/
theorem Represents.daughtersOf_addAll {L L' : List (List Symbol × List Symbol)}
    (ha : Represents a L) (hb : Represents b L') (hps : ps.map sides = b.pairs)
    (head : List Symbol) :
    (a.addAll ps).daughtersOf head = a.daughtersOf head ++ b.daughtersOf head := by
  have hfound : b.daughtersOf head =
      ((ps.map sides).filter fun e => e.1 == head).map Prod.snd := by
    rw [hps, daughtersOf, ← filter_pairsIn hb.headsDiffer]
    rfl
  rw [(ha.addAll ps).daughtersOf_eq, ha.daughtersOf_eq, hfound, List.filter_append, List.map_append]

/-- Grammars under the same brackets have a union, which is under these brackets again. -/
theorem exists_isUnion (ha : IsReachedUnder br a) (hb : IsReachedUnder br b) :
    ∃ u, (a.union (.grammar b)).result = .ok u ∧ IsReachedUnder br u ∧ IsUnion u a b := by
  obtain ⟨hreached, husable, hua⟩ := ha
  obtain ⟨hreached', husable', hub⟩ := hb
  obtain ⟨L, hL⟩ := hreached.exists_represents
  obtain ⟨L', hL'⟩ := hreached'.exists_represents
  obtain ⟨ps, hps⟩ := hL'.exists_productions husable'
  have hadded : (Rules.grammar b).productions a = .ok ps := hps
  have hrules : (Rules.grammar b).AreUnder br := hub.brackets_eq
  have hsides := hub.map_sides hps
  obtain ⟨s, hs⟩ := exists_union husable hadded
  have hstep : ReachableFrom IsAccepted { a.addAll ps with start := s } :=
    hreached.step (.union _ hs)
  have hkept := husable.addAll ps
  have hunder : IsUnder br { a.addAll ps with start := s } := hua.union hrules hs
  have hdaughters := hL.daughtersOf_addAll hL' hsides
  have hdiffer := (hL.addAll ps).headsDiffer
  have hstart := (result_union hadded).symm.trans hs
  have hall : IsUnder br (a.addAll ps) := ⟨hunder.brackets_eq, hunder.buckets⟩
  have hfirst : a.occurrences ⊆ (a.addAll ps).occurrences := by
    refine occurrences_subset hall hua hdiffer hL.headsDiffer fun head => ?_
    rw [hdaughters head]
    exact List.subset_append_left _ _
  have hsecond : b.occurrences ⊆ (a.addAll ps).occurrences := by
    refine occurrences_subset hall hub hdiffer hL'.headsDiffer fun head => ?_
    rw [hdaughters head]
    exact List.subset_append_right _ _
  refine ⟨_, hs, ⟨hstep, ⟨hkept.brackets_valid, hkept.heads_ne_nil⟩, hunder⟩, hdaughters,
    ?_, ?_, ?_, ?_⟩
  · rw [heads, addAll_buckets, hsides]
    exact map_fst_addPairs hL'.headsDiffer hL'.noneEmpty
  · have hcount : ps.length = b.size := by
      rw [← List.length_map, hsides]
      exact length_pairsIn b.buckets
    have hsize : (a.addAll ps).size = a.size + ps.length := size_addAll ps
    rwa [hcount] at hsize
  · intro s hs hcontains
    exact start_of_inheritStart hstart (by rw [hs]; rfl)
      (hall.contains_nonterminals_of_subset hfirst hcontains)
  · intro s hnone hs hcontains
    have htaken : (a.start <|> (Rules.grammar b).start? a) = some s := by
      rw [hnone, Rules.start?, hs]
      rfl
    exact start_of_inheritStart hstart htaken
      (hall.contains_nonterminals_of_subset hsecond hcontains)

end Joining

/-- Grammars are equal where the same daughters are found under every head. -/
theorem IsReachedUnder.equal_of_daughtersOf (ha : IsReachedUnder br a) (hb : IsReachedUnder br b)
    (h : ∀ head, a.daughtersOf head = b.daughtersOf head) : a.equal b = true := by
  obtain ⟨L, hL⟩ := ha.reached.exists_represents
  obtain ⟨L', hL'⟩ := hb.reached.exists_represents
  refine (hL.equal_iff hL').mpr fun head => ?_
  rw [h head]
  exact BEq.rfl

/-- Without productions nothing is found under any head. -/
theorem IsReachedUnder.daughtersOf_of_size_eq_zero (h : IsReachedUnder br g) (hsize : g.size = 0)
    (head : List Symbol) : g.daughtersOf head = [] := by
  obtain ⟨L, hL⟩ := h.reached.exists_represents
  have hpairs : pairsIn g.buckets = [] := by
    rwa [← List.length_eq_zero_iff, length_pairsIn, ← size]
  rw [daughtersOf, ← filter_pairsIn hL.headsDiffer, hpairs]
  rfl

/-- Grammars whose symbols all carry one pair of brackets have a union. Under each head it holds the
daughters of the first one and then those of the second, and the heads of the second that are new
come last. The start symbol is that of the first grammar if it is a non-terminal there, and if there
is none, that of the second if it is a non-terminal there. Union is associative, a grammar without
productions changes nothing on either side, and a grammar may be united with itself. -/
theorem IsReachedUnder.union_laws (ha : IsReachedUnder br a) (hb : IsReachedUnder br b)
    (hc : IsReachedUnder br c) :
    ∃ u, (a.union (.grammar b)).result = .ok u ∧ IsUnion u a b ∧
      a.union .itself = a.union (.grammar a) ∧
      (∃ v l r, (b.union (.grammar c)).result = .ok v ∧ (u.union (.grammar c)).result = .ok l ∧
        (a.union (.grammar v)).result = .ok r ∧ l.equal r = true) ∧
      ∀ e, IsReachedUnder br e → e.size = 0 →
        ∃ l r, (e.union (.grammar a)).result = .ok l ∧ (a.union (.grammar e)).result = .ok r ∧
          l.equal a = true ∧ r.equal a = true := by
  obtain ⟨u, hu, hreachedU, hunion⟩ := exists_isUnion ha hb
  refine ⟨u, hu, hunion, rfl, ?_, ?_⟩
  · obtain ⟨v, hv, hreachedV, hunionV⟩ := exists_isUnion hb hc
    obtain ⟨l, hl, hreachedL, hunionL⟩ := exists_isUnion hreachedU hc
    obtain ⟨r, hr, hreachedR, hunionR⟩ := exists_isUnion ha hreachedV
    refine ⟨v, l, r, hv, hl, hr, hreachedL.equal_of_daughtersOf hreachedR fun head => ?_⟩
    rw [hunionL.daughters, hunion.daughters, hunionR.daughters, hunionV.daughters,
      List.append_assoc]
  · intro e he hsize
    have hnone := he.daughtersOf_of_size_eq_zero hsize
    obtain ⟨l, hl, hreachedL, hunionL⟩ := exists_isUnion he ha
    obtain ⟨r, hr, hreachedR, hunionR⟩ := exists_isUnion ha he
    refine ⟨l, r, hl, hr, hreachedL.equal_of_daughtersOf ha fun head => ?_,
      hreachedR.equal_of_daughtersOf ha fun head => ?_⟩
    · rw [hunionL.daughters, hnone, List.nil_append]
    · rw [hunionR.daughters, hnone, List.append_nil]

/-- Two grammars with a common head, which are made of lists of productions. -/
theorem union_laws_overlapping :
    ∃ a b u, ∃ s t x y : Symbol, IsReachedUnder .square a ∧ IsReachedUnder .square b ∧
      a.heads = [[s]] ∧ b.heads = [[t], [s]] ∧ a.start = some s ∧ b.start = some t ∧
      (a.union (.grammar b)).result = .ok u ∧ u.heads = [[s], [t]] ∧
      u.daughtersOf [s] = [[x], [y]] ∧ u.size = 3 ∧ u.start = some s := by
  let s : Symbol := ⟨"S", .square⟩
  let t : Symbol := ⟨"T", .square⟩
  let x : Symbol := ⟨"[x]", .square⟩
  let y : Symbol := ⟨"[y]", .square⟩
  let first : Production := ⟨[s], [x], by simp⟩
  let second : Production := ⟨[t], [], by simp⟩
  let third : Production := ⟨[s], [y], by simp⟩
  let a : Grammar := { (empty {}).addAll [first] with start := some s }
  let b : Grammar := { (empty {}).addAll [second, third] with start := some t }
  have hmakeA : (make {} (.given (.list [.production first])) .null).result = .ok a := rfl
  have hmakeB : (make {} (.given (.list [.production second, .production third])) .null).result =
      .ok b := rfl
  have hempty : IsUnder .square (empty {}) := .empty rfl
  have hfirst : AreUnder .square first.symbols := by simp [AreUnder, symbols, first, s, x]
  have hsecond : AreUnder .square second.symbols := by simp [AreUnder, symbols, second, t]
  have hthird : AreUnder .square third.symbols := by simp [AreUnder, symbols, third, s, y]
  have ha : IsReachedUnder .square a := by
    refine ⟨.initial ⟨_, _, _, hmakeA⟩, ⟨⟨.square, rfl⟩, ?_⟩,
      (hempty.add hfirst).withStart (some s)⟩
    simp [a, add, empty, first]
  have hb : IsReachedUnder .square b := by
    refine ⟨.initial ⟨_, _, _, hmakeB⟩, ⟨⟨.square, rfl⟩, ?_⟩,
      ((hempty.add hsecond).add hthird).withStart (some t)⟩
    simp [b, add, empty, second, third]
  obtain ⟨u, hu, hunion, -⟩ := ha.union_laws hb hb
  refine ⟨a, b, u, s, t, x, y, ha, hb, rfl, rfl, rfl, rfl, hu, hunion.heads, hunion.daughters [s],
    hunion.size, hunion.start_kept s rfl (by decide)⟩

end PhraseStructure.Grammar
