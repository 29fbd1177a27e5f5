import PhraseStructure.Grammar.Contents
import PhraseStructure.Proofs.Grammar.Difference
import PhraseStructure.Proofs.Grammar.Extension
import PhraseStructure.Proofs.Grammar.Forms
import PhraseStructure.Proofs.Grammar.Indexing
import PhraseStructure.Proofs.OrderedSet

/-!
# Lookups and iteration

The contents of a grammar can be looked up in several ways: by counting, by a rule, by a head, as a
list of heads, and as a table or a list of pairs. Each goes its own way into the buckets, and makes
symbols of what is given in its own way. All of them answer as if they went through the productions
of the iteration (`Answers`, `Represents.answers`). As what is found under the heads also decides
which grammars are equal, two sequences of rules that are pushed one by one (`pushAll`) make equal
grammars exactly if they bring the same daughters under each head in the same order
(`ReachableFrom.lookup_laws`).
-/

namespace PhraseStructure

/-- Two sequences of values are the same if they are the same value by value. -/
theorem Datum.sameAll_map {α β : Type} {f : α → Datum} {f' : β → Datum} {xs : List α}
    {ys : List β} (h : List.Forall₂ (fun x y => (f x).same (f' y) = true) xs ys) :
    Datum.sameAll (xs.map f) (ys.map f') = true := by
  induction h with
  | nil => rw [List.map_nil, List.map_nil, sameAll]
  | cons hfirst _ ih => rw [List.map_cons, List.map_cons, sameAll, hfirst, ih, Bool.and_true]

namespace Grammar

open Production

variable {g h : Grammar} {L L' : List (List Symbol × List Symbol)} {buckets : List Bucket}
  {seen : List (List Symbol)} {head head' xs ys : List Symbol} {p q : Production}
  {ps qs : List Production} {b b' : Brackets} {given rule : Datum} {rules rules' : List Datum}

section Heads

/-- Other brackets make no difference to whether symbols are equal. -/
theorem rebracketed_beq (b b' : Brackets) (xs ys : List Symbol) :
    (xs.map (rebracketed · b) == ys.map (rebracketed · b')) = (xs == ys) := by
  rw [Bool.eq_iff_iff, Symbol.list_beq_iff, Symbol.list_beq_iff]
  exact iff_of_eq (congrArg₂ (· = ·) (texts_rebracketed xs b) (texts_rebracketed ys b'))

/-- Of the heads of the pairs in a bucket only the first one is new. -/
theorem distinctFrom_map_fst_pairsIn (hdiffer : HeadsDiffer buckets) (hne : NoneEmpty buckets)
    (hseen : ∀ bucket ∈ buckets, seen.contains bucket.1 = false) :
    distinctFrom seen ((pairsIn buckets).map Prod.fst) = buckets.map Prod.fst := by
  induction buckets generalizing seen with
  | nil => rfl
  | cons bucket rest ih =>
    obtain ⟨head, ds⟩ := bucket
    obtain ⟨hfirst, hrest⟩ := headsDiffer_cons.mp hdiffer
    rw [NoneEmpty, List.forall_mem_cons] at hne
    rw [List.forall_mem_cons] at hseen
    obtain ⟨d, ds, rfl⟩ := List.exists_cons_of_ne_nil hne.1
    have hsame : ∀ other ∈ (ds.map (head, ·)).map Prod.fst,
        (head :: seen).contains other = true := by
      intro other hother
      obtain ⟨_, -, rfl⟩ := List.mem_map.mp (List.map_map ▸ hother)
      simp
    have hlater : ∀ bucket ∈ rest, (head :: seen).contains bucket.1 = false := by
      intro bucket hbucket
      have hother : (bucket.1 == head) = false :=
        Bool.eq_false_iff.mpr fun hequal => hfirst ⟨bucket, hbucket, hequal⟩
      rw [List.contains_cons, hother, hseen.2 bucket hbucket, Bool.or_false]
    rw [pairsIn_cons, List.map_append, List.map_cons, List.map_cons, List.cons_append, distinctFrom,
      if_neg (by simp [hseen.1]), distinctFrom_append_of_seen hsame, ih hrest hne.2 hlater,
      List.map_cons]

/-- The heads are those of the productions, each where it comes first. -/
theorem Represents.distinct_heads (hL : Represents g L) (hb : g.conventions.brackets = .text b.text)
    (hps : g.productions = .ok ps) :
    distinct (ps.map Production.head) = g.heads.map fun head => head.map (rebracketed · b) := by
  have hheads : ps.map Production.head =
      (g.pairs.map Prod.fst).map fun head => head.map (rebracketed · b) := by
    have hsides := congrArg (List.map Prod.fst) (map_sides_productions hb hps)
    rw [List.map_map, List.map_map] at hsides
    rw [List.map_map]
    exact hsides
  have hnone : ∀ bucket ∈ g.buckets, List.contains [] bucket.1 = false := fun _ _ => rfl
  rw [hheads, distinct_map (rebracketed_beq b b), distinct]
  exact congrArg _ (distinctFrom_map_fst_pairsIn hL.headsDiffer hL.noneEmpty hnone)

end Heads

section Finding

/-- The daughters of the productions with a head are those that are found under it. -/
theorem Represents.map_daughters_filter (hL : Represents g L)
    (hb : g.conventions.brackets = .text b.text) (hps : g.productions = .ok ps)
    (head : List Symbol) : (ps.filter (·.head == head)).map Production.daughters =
      (g.daughtersOf head).map fun d => d.map (rebracketed · b) := by
  have hsame : ∀ e : List Symbol × List Symbol,
      (e.1.map (rebracketed · b) == head) = (e.1 == head) := by
    intro e
    exact BEq.congr_left (Symbol.list_beq_iff.mpr (texts_rebracketed e.1 b))
  have hsides := congrArg (fun pairs => (pairs.filter (·.1 == head)).map Prod.snd)
    (map_sides_productions hb hps)
  simp only [List.filter_map, List.map_map, Function.comp_def, hsame] at hsides
  rw [daughtersOf, ← filter_pairsIn hL.headsDiffer, List.map_map]
  exact hsides

/-- The productions with a head that is given are found in the order of the iteration. -/
theorem Represents.productionsOf_eq (hL : Represents g L)
    (hb : g.conventions.brackets = .text b.text) (hps : g.productions = .ok ps)
    (hgiven : readSide given g.conventions.brackets = .ok head) :
    g.productionsOf given = .ok (ps.filter (·.head == head)) := by
  have hunder : AreUnder b head := areUnder_of_readSide (hb ▸ hgiven)
  have hhead : ∀ p ∈ ps.filter (·.head == head), p.head = head := by
    intro p hp
    obtain ⟨hmem, hsame⟩ := List.mem_filter.mp hp
    have hsymbols := ((mem_productions_iff hb hps).mp hmem).2
    exact (areUnder_append.mp hsymbols).1.eq_of_beq hunder hsame
  have hdaughters := hL.map_daughters_filter hb hps head
  rw [← List.forall₂_eq_eq_eq, List.forall₂_map_left_iff, List.forall₂_map_right_iff] at hdaughters
  refine bind_eq_ok_iff.mpr ⟨head, hgiven, mapM_eq_ok_iff.mpr ?_⟩
  refine (((List.forall₂_and_left _ _).mpr ⟨hhead, hdaughters⟩).imp fun p d hp => ?_).flip
  change rewrap head d _ = .ok p
  rw [hb, rewrap_text_eq_ok_iff, hunder.map_rebracketed]
  exact hp

/-- A rule is in a grammar if its production is among those that the grammar gives. -/
theorem Represents.contains_eq (hL : Represents g L) (hps : g.productions = .ok ps)
    (hread : g.readRule rule = .ok q) (hsame : (q == p) = true) :
    g.contains rule = .ok (ps.contains p) := by
  have hmem : ps.contains q = ps.contains p := by
    rw [Bool.eq_iff_iff, List.contains_iff_exists_mem_beq, List.contains_iff_exists_mem_beq]
    refine exists_congr fun r => and_congr_right fun _ => ?_
    rw [beq_iff_sideTexts, beq_iff_sideTexts, beq_iff_sideTexts.mp hsame]
  rw [contains, hread, ← hmem, contains_productions hL hps]
  rfl

end Finding

section Contents

/-- Symbols with the same texts are the same side of a rule. -/
theorem side_same (h : texts xs = texts ys) : (side xs).same (side ys) = true := by
  rw [side, side, Datum.same]
  rw [texts, texts, ← List.forall₂_eq_eq_eq, List.forall₂_map_left_iff,
    List.forall₂_map_right_iff] at h
  refine Datum.sameAll_map (h.imp fun s t hst => ?_)
  rw [Datum.same]
  exact Symbol.beq_iff.mpr hst

/-- The list of pairs holds the sides of the productions. -/
theorem toList_beq (hps : g.productions = .ok ps) :
    (g.toList == .list (ps.map fun p => .tuple [side p.head, side p.daughters])) = true := by
  have hpairs := map_sideTexts_productions hps
  rw [← List.forall₂_eq_eq_eq, List.forall₂_map_left_iff, List.forall₂_map_right_iff] at hpairs
  change Datum.same g.toList _ = true
  rw [toList, Datum.same]
  refine Datum.sameAll_map (hpairs.flip.imp fun e p hp => ?_)
  obtain ⟨hhead, hdaughters⟩ := Sides.mk.inj hp
  simp only [Datum.same, Datum.sameAll, side_same hhead.symm, side_same hdaughters.symm,
    Bool.and_true]

/-- The pairs that a table of heads holds, one after another. -/
def pairsOfTable (entries : List (Datum × Datum)) : List Datum :=
  entries.flatMap fun entry =>
    (entry.2.elements?.getD []).map fun daughters => .tuple [entry.1, daughters]

/-- The list of a grammar holds the pairs of its table, in the same order. -/
theorem toList_eq (g : Grammar) :
    g.toList = .list (pairsOfTable (g.buckets.map tableEntry)) := by
  rw [toList, pairs, pairsOfTable, List.map_flatMap, List.flatMap_map]
  refine congrArg _ (List.flatMap_congr fun bucket _ => ?_)
  rw [tableEntry, Datum.elements?, Option.getD_some, List.map_map, List.map_map]
  rfl

end Contents

/-- Every lookup in the grammar answers what the list of productions does. -/
structure Answers (g : Grammar) (ps : List Production) : Prop where
  /-- As many are counted. -/
  size : g.size = ps.length
  /-- What can be read as a rule is in the grammar if it is among the productions. -/
  contains_rule : ∀ rule p, g.readRule rule = .ok p → g.contains rule = .ok (ps.contains p)
  contains_production : ∀ p, g.contains (.production p) = .ok (ps.contains p)
  contains_pair : ∀ p : Production,
    g.contains (.tuple [side p.head, side p.daughters]) = .ok (ps.contains p)
  /-- The text of a production that is read back is in the grammar if the production is. -/
  contains_text : ∀ (p q : Production) (delimiter : String),
    g.conventions.delimiter = .text delimiter →
      g.readRule (.text (p.render delimiter)) = .ok q → (q == p) = true →
        g.contains (.text (p.render delimiter)) = .ok (ps.contains p)
  /-- Under a head are the productions with that head. -/
  productionsOf : ∀ given head, readSide given g.conventions.brackets = .ok head →
    g.productionsOf given = .ok (ps.filter (·.head == head))
  productionsOf_side : ∀ head,
    g.productionsOf (side head) = .ok (ps.filter (·.head == head))
  /-- The heads are in the order in which they first come, each once. -/
  heads : (g.heads == distinct (ps.map Production.head)) = true
  heads_differ : g.heads.Pairwise fun head other => (head == other) = false
  /-- The table and the list hold the sides of the productions in the same order. -/
  toList : (g.toList == .list (ps.map fun p => .tuple [side p.head, side p.daughters])) = true
  toTable : ∃ entries, g.toTable = .table entries ∧
    g.headList = .list (entries.map Prod.fst) ∧ g.toList = .list (pairsOfTable entries)

/-- All lookups agree with the iteration. -/
theorem Represents.answers (hL : Represents g L) (hb : g.conventions.brackets = .text b.text)
    (hps : g.productions = .ok ps) : g.Answers ps where
  size := (length_productions hps).symm
  contains_rule rule p hread := hL.contains_eq hps hread (beq_iff_sideTexts.mpr rfl)
  contains_production p := hL.contains_eq hps rfl (beq_iff_sideTexts.mpr rfl)
  contains_pair p := by
    have hgives : ∀ symbols, GivesSide (texts symbols) (side symbols) := by
      intro symbols
      refine .tuple ?_
      rw [texts, List.forall₂_map_left_iff, List.forall₂_map_right_iff]
      exact List.forall₂_same.mpr fun s _ => .symbol s.brackets
    have hpair : GivesPair p.sideTexts (.tuple [side p.head, side p.daughters]) :=
      .tuple (hgives p.head) (hgives p.daughters)
    exact hL.contains_eq hps (hpair.readRule_eq hb) (beq_iff_sideTexts.mpr (sideTexts_under p b))
  contains_text p q delimiter _ hread hsame := hL.contains_eq hps hread hsame
  productionsOf given head hgiven := hL.productionsOf_eq hb hps hgiven
  productionsOf_side head := by
    have hsame : ∀ p : Production,
        (p.head == head.map (rebracketed · b)) = (p.head == head) :=
      fun p => BEq.congr_right (Symbol.list_beq_iff.mpr (texts_rebracketed head b))
    rw [hL.productionsOf_eq hb hps (hb ▸ readSide_side head b)]
    simp only [hsame]
  heads := by
    rw [hL.distinct_heads hb hps, daughters_beq_iff, List.map_map]
    exact List.map_congr_left fun head _ => (texts_rebracketed head b).symm
  heads_differ := hL.headsDiffer
  toList := toList_beq hps
  toTable := by
    refine ⟨_, toTable_eq g, ?_, toList_eq g⟩
    rw [headList, heads, List.map_map, List.map_map]
    rfl

section Pushing

/-- The grammar after rules were pushed one by one. One that cannot be read changes nothing. -/
def pushAll (g : Grammar) (rules : List Datum) : Grammar :=
  rules.foldl (fun g rule => (g.push rule).grammar) g

/-- The productions that are read from some rules, without those that cannot be read. -/
def readRules (g : Grammar) (rules : List Datum) : List Production :=
  rules.filterMap fun rule => (g.readRule rule).toOption

/-- The daughters that some rules bring under a head. -/
def daughtersPushed (g : Grammar) (rules : List Datum) (head : List Symbol) : List (List Symbol) :=
  ((g.readRules rules).filter (·.head == head)).map Production.daughters

/-- Rules that are pushed are added as far as they can be read. -/
theorem pushAll_eq (g : Grammar) (rules : List Datum) :
    g.pushAll rules = g.addAll (g.readRules rules) := by
  induction rules generalizing g with
  | nil => rfl
  | cons rule rules ih =>
    change (g.push rule).grammar.pushAll rules = _
    rw [ih, readRules, readRules, List.filterMap_cons]
    cases hread : g.readRule rule with
    | error fault =>
      rw [push_of_readRule_eq_error hread]
      rfl
    | ok p =>
      rw [push_of_readRule_eq_ok hread]
      rfl

/-- Under a head the daughters that are pushed come behind those that were there. -/
theorem Represents.daughtersOf_pushAll (hL : Represents g L) (rules : List Datum)
    (head : List Symbol) : (g.pushAll rules).daughtersOf head =
      g.daughtersOf head ++ g.daughtersPushed rules head := by
  rw [pushAll_eq, (hL.addAll _).daughtersOf_eq, List.filter_append, List.map_append,
    ← hL.daughtersOf_eq, daughtersPushed, List.filter_map, List.map_map]
  rfl

/-- What is pushed to equal grammars makes equal grammars exactly if under each head the same
daughters are pushed in the same order. -/
theorem Represents.equal_pushAll_iff (hL : Represents g L) (hL' : Represents h L')
    (hequal : g.equal h = true) : (g.pushAll rules).equal (h.pushAll rules') = true ↔
      ∀ head, (g.daughtersPushed rules head == h.daughtersPushed rules' head) = true := by
  have hpushed : Represents (g.pushAll rules) _ := pushAll_eq g rules ▸ hL.addAll _
  have hpushed' : Represents (h.pushAll rules') _ := pushAll_eq h rules' ▸ hL'.addAll _
  rw [hpushed.equal_iff hpushed']
  refine forall_congr' fun head => ?_
  have hfront := daughters_beq_iff.mp ((hL.equal_iff hL').mp hequal head)
  rw [hL.daughtersOf_pushAll, hL'.daughtersOf_pushAll, daughters_beq_iff, daughters_beq_iff,
    List.map_append, List.map_append, hfront, List.append_cancel_left_eq]

end Pushing

/-- The texts of the productions with a head are those of the daughters under it. -/
theorem filter_head_beq_iff : (ps.filter (·.head == head) == qs.filter (·.head == head)) = true ↔
    daughterTexts (texts head) (ps.map sideTexts) =
      daughterTexts (texts head) (qs.map sideTexts) := by
  have hfound : ∀ rs : List Production, (rs.filter (·.head == head)).map sideTexts =
      (daughterTexts (texts head) (rs.map sideTexts)).map (Sides.mk (texts head)) := by
    intro rs
    have hsame : ∀ p : Production,
        (p.head == head) = decide (p.sideTexts.head = texts head) := by
      intro p
      rw [Bool.eq_iff_iff, Symbol.list_beq_iff, decide_eq_true_iff]
      rfl
    rw [daughterTexts, List.filter_map, List.map_map, List.map_map]
    simp only [hsame]
    refine List.map_congr_left fun p hp => ?_
    have hhead : p.sideTexts.head = texts head := of_decide_eq_true (List.mem_filter.mp hp).2
    rw [Function.comp_apply, Function.comp_apply, ← hhead]
  have hinjective : Function.Injective (Sides.mk (texts head)) :=
    fun _ _ hsides => (Sides.mk.inj hsides).2
  rw [list_beq_iff, hfound, hfound, (List.map_injective_iff.mpr hinjective).eq_iff]

/-- Grammars are equal exactly if the same productions are found under every head. -/
theorem Represents.equal_iff_productionsOf (hL : Represents g L) (hL' : Represents h L')
    (hg : g.Answers ps) (hh : h.Answers qs) (hps : g.productions = .ok ps)
    (hqs : h.productions = .ok qs) : g.equal h = true ↔
      ∀ head, ∃ found found', g.productionsOf (side head) = .ok found ∧
        h.productionsOf (side head) = .ok found' ∧ (found == found') = true := by
  rw [hL.equal_iff hL']
  refine forall_congr' fun head => ?_
  rw [hg.productionsOf_side, hh.productionsOf_side, daughters_beq_iff,
    hL.map_texts_daughtersOf hps, hL'.map_texts_daughtersOf hqs, ← filter_head_beq_iff]
  constructor
  · intro hsame
    exact ⟨_, _, rfl, rfl, hsame⟩
  · rintro ⟨found, found', hfound, hfound', hsame⟩
    cases hfound
    cases hfound'
    exact hsame

/-- In a grammar that was reached by any operations, under valid brackets and with a symbol in each
head, every lookup agrees with the iteration. Two such grammars are equal exactly if the same
productions are found under every head, so that rules that are pushed to equal grammars make equal
grammars exactly if they bring the same daughters under each head in the same order. -/
theorem ReachableFrom.lookup_laws (hg : ReachableFrom IsAccepted g)
    (hh : ReachableFrom IsAccepted h) (husable : g.IsUsable) (husable' : h.IsUsable) :
    (∃ ps, g.productions = .ok ps ∧ g.Answers ps) ∧
      (g.equal h = true ↔ ∀ head, ∃ found found', g.productionsOf (side head) = .ok found ∧
        h.productionsOf (side head) = .ok found' ∧ (found == found') = true) ∧
      (g.equal h = true → ∀ rules rules',
        ((g.pushAll rules).equal (h.pushAll rules') = true ↔
          ∀ head, (g.daughtersPushed rules head == h.daughtersPushed rules' head) = true)) := by
  obtain ⟨L, hL⟩ := hg.exists_represents
  obtain ⟨L', hL'⟩ := hh.exists_represents
  obtain ⟨b, hb⟩ := husable.brackets_valid
  obtain ⟨b', hb'⟩ := husable'.brackets_valid
  obtain ⟨ps, hps⟩ := hL.exists_productions husable
  obtain ⟨qs, hqs⟩ := hL'.exists_productions husable'
  have hanswers := hL.answers hb hps
  refine ⟨⟨ps, hps, hanswers⟩, ?_, fun hequal rules rules' => hL.equal_pushAll_iff hL' hequal⟩
  exact hL.equal_iff_productionsOf hL' hanswers (hL'.answers hb' hqs) hps hqs

/-- Two grammars whose productions were added with their heads in another order, one of them under
other brackets. They are looked up by a text and by a head, and get two more rules in either
order. -/
theorem lookup_laws_interleaved :
    ∃ (g h : Grammar) (ps : List Production), ReachableFrom IsAccepted g ∧
      ReachableFrom IsAccepted h ∧ g.IsUsable ∧ h.IsUsable ∧ g.productions = .ok ps ∧
      g.conventions.brackets ≠ h.conventions.brackets ∧ (g.heads == h.heads) = false ∧
      g.contains (.text "A --> D") = .ok true ∧
      g.productionsOf (.text "A") = .ok (ps.take 2) ∧
      (∃ found found', g.productionsOf (side [⟨"A", .square⟩]) = .ok found ∧
        h.productionsOf (side [⟨"A", .square⟩]) = .ok found' ∧ (found == found') = true) ∧
      (g.daughtersPushed [.text "A --> E", .text "B --> F"] [⟨"A", .square⟩] ==
        h.daughtersPushed [.text "B --> F", .text "A --> E"] [⟨"A", .square⟩]) = true := by
  let angle : Brackets := ⟨'<', '>', rfl, rfl⟩
  let first : Production := ⟨[⟨"A", .square⟩], [⟨"D", .square⟩], by simp⟩
  let second : Production := ⟨[⟨"B", .square⟩], [], by simp⟩
  let third : Production := ⟨[⟨"A", .square⟩], [], by simp⟩
  let g : Grammar := { (empty {}).addAll [first, second, third] with start := some ⟨"A", .square⟩ }
  let h : Grammar :=
    { (empty { brackets := .text "<>" }).addAll [second, first, third] with
      start := some ⟨"B", .square⟩ }
  have hmake : (make {} (.given (.list [.production first, .production second, .production third]))
      .null).result = .ok g := rfl
  have hmake' : (make { brackets := .text "<>" } (.given (.list [.production second,
      .production first, .production third])) .null).result = .ok h := rfl
  have hg : ReachableFrom IsAccepted g := .initial ⟨_, _, _, hmake⟩
  have hh : ReachableFrom IsAccepted h := .initial ⟨_, _, _, hmake'⟩
  have husable : g.IsUsable := ⟨⟨.square, rfl⟩, by simp [g, add, empty, first, second, third]⟩
  have husable' : h.IsUsable := ⟨⟨angle, rfl⟩, by simp [h, add, empty, first, second, third]⟩
  have hiterated : g.productions = .ok [first, third, second] := rfl
  have hequal : g.equal h = true := rfl
  have hread : g.readRule (.text "A --> D") = .ok first := by cbv
  have hpushed : (g.pushAll [.text "A --> E", .text "B --> F"]).equal
      (h.pushAll [.text "B --> F", .text "A --> E"]) = true := by decide +kernel
  obtain ⟨⟨ps, hps, hanswers⟩, hsame, hpush⟩ := hg.lookup_laws hh husable husable'
  cases hiterated.symm.trans hps
  refine ⟨g, h, _, hg, hh, husable, husable', hps, ?_, rfl,
    hanswers.contains_rule _ _ hread, hanswers.productionsOf (.text "A") [⟨"A", .square⟩] rfl,
    hsame.mp hequal _, (hpush hequal _ _).mp hpushed _⟩
  simp [g, h, empty, add]

end Grammar

end PhraseStructure
