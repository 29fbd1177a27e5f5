import PhraseStructure.Proofs.Grammar.Removal
import PhraseStructure.Proofs.Grammar.Texts

/-!
# The difference of grammars

A difference is filled anew with the productions that are left, in the order of iteration. Those
that are left of each bucket make up a bucket again, unless there are none (`keepIn`), so that the
iteration over the difference is that over the grammar without the excluded productions
(`IsSound.exists_difference_texts`). The same is left after any removal of them one by one. From
what a union holds under each head (`IsSound.exists_union_texts`), the laws of union and difference
are those of appending and filtering (`ReachableFrom.difference_laws`).
-/

namespace PhraseStructure.Grammar

open Production

variable {a b g h x y : Grammar} {L M : List (List Symbol × List Symbol)} {buckets : List Bucket}
  {keep : List Symbol × List Symbol → Bool} {ps xs ys : List Production} {br : Brackets}
  {conventions : Conventions}

section Keeping

/-- The buckets with those of their daughters that are kept; what is empty then is removed. -/
def keepIn (keep : List Symbol × List Symbol → Bool) (buckets : List Bucket) : List Bucket :=
  (buckets.map fun bucket => (bucket.1, bucket.2.filter fun d => keep (bucket.1, d))).filter
    (!·.2.isEmpty)

/-- The productions in the buckets are those that are kept, in the same order. -/
theorem pairsIn_keepIn : pairsIn (keepIn keep buckets) = (pairsIn buckets).filter keep := by
  induction buckets with
  | nil => rfl
  | cons bucket rest ih =>
    have hfirst : (bucket.2.map (bucket.1, ·)).filter keep =
        (bucket.2.filter fun d => keep (bucket.1, d)).map (bucket.1, ·) := List.filter_map
    rw [keepIn, List.map_cons, List.filter_cons, pairsIn_cons, List.filter_append, ← ih, hfirst]
    split
    · rw [pairsIn_cons]
      rfl
    · next hnone =>
      have hempty : (bucket.2.filter fun d => keep (bucket.1, d)) = [] := by simpa using hnone
      rw [hempty, List.map_nil, List.nil_append]
      rfl

/-- Buckets in which some daughters are kept still have different heads. -/
theorem HeadsDiffer.keepIn (h : HeadsDiffer buckets) : HeadsDiffer (keepIn keep buckets) := by
  have hheads : ((Grammar.keepIn keep buckets).map Prod.fst).Sublist (buckets.map Prod.fst) := by
    have hsub := (List.filter_sublist (p := fun bucket : Bucket => !bucket.2.isEmpty)
      (l := buckets.map fun bucket =>
        (bucket.1, bucket.2.filter fun d => keep (bucket.1, d)))).map Prod.fst
    rwa [List.map_map] at hsub
  exact List.Pairwise.sublist hheads h

/-- No bucket is empty after those of its daughters are left out that are not kept. -/
theorem noneEmpty_keepIn : NoneEmpty (keepIn keep buckets) := by
  intro bucket hbucket
  simpa using (List.mem_filter.mp hbucket).2

/-- What is kept of some buckets fills the buckets that are left of them. -/
theorem addPairs_filter_pairsIn (h : HeadsDiffer buckets) :
    addPairs ((pairsIn buckets).filter keep) [] = keepIn keep buckets := by
  rw [← pairsIn_keepIn]
  exact addPairs_pairsIn h.keepIn noneEmpty_keepIn fun _ _ => hasHead_nil

/-- Productions with texts that are kept of a grammar fill buckets from which these texts are read
in the same order. -/
theorem map_pairTexts_addAll (hdiffer : HeadsDiffer g.buckets) {keep : Sides → Bool}
    (hps : ps.map sideTexts = (g.pairs.map pairTexts).filter keep) :
    ((empty conventions).addAll ps).pairs.map pairTexts =
      (g.pairs.map pairTexts).filter keep := by
  rw [List.filter_map] at hps ⊢
  have hsides : (ps.map sides).map pairTexts =
      (g.pairs.filter (keep ∘ pairTexts)).map pairTexts := by
    rw [map_pairTexts_sides, hps]
  have hbuckets : ((empty conventions).addAll ps).buckets.map bucketTexts =
      (keepIn (keep ∘ pairTexts) g.buckets).map bucketTexts := by
    rw [addAll_buckets, ← addPairs_filter_pairsIn hdiffer]
    exact map_bucketTexts_addPairs hsides rfl
  have hpairs : (g.pairs.filter (keep ∘ pairTexts)) =
      pairsIn (keepIn (keep ∘ pairTexts) g.buckets) := pairsIn_keepIn.symm
  rw [hpairs, map_pairTexts_pairsIn, ← hbuckets, ← map_pairTexts_pairsIn]
  rfl

end Keeping

section Combining

/-- Under each head a union holds the daughters of the first grammar and then those of the second.
-/
theorem IsSound.exists_union_texts (hg : g.IsSound) (hys : y.productions = .ok ys) :
    ∃ u, (g.union (.grammar y)).result = .ok u ∧ u.IsSound ∧ ∀ key,
      daughterTexts key (u.pairs.map pairTexts) =
        daughterTexts key (g.pairs.map pairTexts) ++ daughterTexts key (y.pairs.map pairTexts) := by
  obtain ⟨L, hL⟩ := hg.represents
  obtain ⟨u, hu, hU, husable, -⟩ :=
    hL.exists_union hg.usable ((Rules.productions_grammar g y).trans hys)
  refine ⟨u, hu, ⟨husable, _, hU⟩, fun key => ?_⟩
  rw [hU.daughterTexts_pairs, hL.daughterTexts_pairs, List.map_append,
    map_pairTexts_sides_productions hys, daughterTexts_append]

/-- A production is excluded exactly if it occurs in the other grammar. -/
theorem contains_productions (hx : Represents x M) (hxs : x.productions = .ok xs) (p : Production) :
    xs.contains p = x.mem p := by
  rw [Bool.eq_iff_iff, hx.mem_iff, ← map_sideTexts_productions hxs,
    List.contains_iff_exists_mem_beq, List.mem_map]
  exact exists_congr fun q => and_congr_right fun _ => beq_iff_sideTexts.trans eq_comm

/-- Whether productions occur in a grammar depends on their texts. -/
theorem Represents.map_sideTexts_filter_mem (hx : Represents x M) (ps : List Production) :
    (ps.filter (!x.mem ·)).map sideTexts =
      (ps.map sideTexts).filter (· ∉ x.pairs.map pairTexts) := by
  have hmem : ∀ p : Production, (!x.mem p) = decide (p.sideTexts ∉ x.pairs.map pairTexts) := by
    intro p
    rw [Bool.eq_iff_iff, decide_eq_true_iff, ← hx.mem_iff]
    simp
  rw [List.filter_map]
  simp only [hmem]
  rfl

/-- A difference gives the productions of the grammar in their order, without those that occur in
the other grammar. -/
theorem IsSound.exists_difference_texts (hg : g.IsSound) (hps : g.productions = .ok ps)
    (hx : Represents x M) (hxs : x.productions = .ok xs) :
    ∃ d, (g.difference (.grammar x)).result = .ok d ∧ d.IsSound ∧
      d.productions = .ok (ps.filter (!x.mem ·)) ∧
      d.pairs.map pairTexts =
        (g.pairs.map pairTexts).filter (· ∉ x.pairs.map pairTexts) := by
  obtain ⟨L, hL⟩ := hg.represents
  obtain ⟨br, hb⟩ := hg.usable.brackets_valid
  obtain ⟨d, hd, hD, hbuckets, husable, hconventions⟩ :=
    exists_represents_difference hg.usable hps ((Rules.productions_grammar g x).trans hxs)
  simp only [contains_productions hx hxs] at hD hbuckets
  have hkept : (ps.filter (!x.mem ·)).map sideTexts =
      (g.pairs.map pairTexts).filter (· ∉ x.pairs.map pairTexts) := by
    rw [hx.map_sideTexts_filter_mem, map_sideTexts_productions hps]
  have htexts : d.pairs.map pairTexts =
      (g.pairs.map pairTexts).filter (· ∉ x.pairs.map pairTexts) := by
    rw [← map_pairTexts_addAll hL.headsDiffer hkept, pairs, hbuckets]
    rfl
  have hunder : ∀ p ∈ ps.filter (!x.mem ·), AreUnder br p.symbols := by
    intro p hp
    exact ((mem_productions_iff hb hps).mp (List.mem_of_mem_filter hp)).2
  have hproductions : d.productions = .ok (ps.filter (!x.mem ·)) :=
    productions_of_sideTexts (by rw [hconventions, hb]) (hkept.trans htexts.symm) hunder
  exact ⟨d, hd, ⟨husable, _, hD⟩, hproductions, htexts⟩

/-- Grammars that give productions with the same texts are equal. -/
theorem IsSound.equal_of_texts (hg : g.IsSound) (hh : h.IsSound)
    (htexts : g.pairs.map pairTexts = h.pairs.map pairTexts) : g.equal h = true := by
  obtain ⟨L, hL⟩ := hg.represents
  obtain ⟨M, hM⟩ := hh.represents
  rw [hL.equal_iff_texts hM, htexts]
  exact fun _ => rfl

/-- Grammars that can be iterated over have a union, in which occurs what occurs in one of them. It
can be iterated over again if the first one is usable. -/
theorem Represents.exists_union_mem_texts (hx : Represents x L) (hxs : x.productions = .ok xs)
    (hys : y.productions = .ok ys) :
    ∃ u, (x.union (.grammar y)).result = .ok u ∧ (∃ M', Represents u M') ∧
      (x.IsUsable → ∃ us, u.productions = .ok us) ∧ ∀ sides, sides ∈ u.pairs.map pairTexts ↔
        sides ∈ x.pairs.map pairTexts ∨ sides ∈ y.pairs.map pairTexts := by
  have hadded : (Rules.grammar y).productions x = .ok ys := hys
  have hheads : [] ∉ (x.addAll ys).additions := by
    rw [addAll_additions]
    rcases hx.exists_productions_iff.mp ⟨xs, hxs⟩ with hsize | husable
    · rw [hx.size_eq_zero_iff.mp hsize]
      simp [Production.head_ne_nil]
    · simp [husable.heads_ne_nil, Production.head_ne_nil]
  obtain ⟨s, hs⟩ := exists_inheritStart hheads (x.start <|> (Rules.grammar y).start? x)
  have hU : Represents { x.addAll ys with start := s } (L ++ ys.map sides) :=
    (hx.addAll ys).congr rfl rfl
  refine ⟨_, (result_union hadded).trans hs, ⟨_, hU⟩, fun husable => ?_, fun sides => ?_⟩
  · have hkept := husable.addAll ys
    exact hU.exists_productions ⟨hkept.brackets_valid, hkept.heads_ne_nil⟩
  · rw [hU.mem_pairTexts_iff, List.map_append, map_pairTexts_sides_productions hys,
      List.mem_append, hx.mem_pairTexts_iff]

end Combining

/-- A difference gives the productions of the grammar in their order, without those that occur in
the other grammar. The same is left when these are removed one by one, in any order: as long as
there is one, it is removed and returned, and the grammar without any of them equals the difference
and gives the same productions. A difference of a union is the union of the differences, and a
difference from a union is one difference after the other. Grammars that are taken away need not be
usable, as long as they can be iterated over. -/
theorem ReachableFrom.difference_laws (hg : ReachableFrom IsAccepted g) (husable : g.IsUsable)
    (hx : ReachableFrom IsAccepted x) (hxs : x.productions = .ok xs) :
    ∃ ps d, g.productions = .ok ps ∧ (g.difference (.grammar x)).result = .ok d ∧
      d.productions = .ok (ps.filter (!x.mem ·)) ∧
      (∀ n h, Removes x.mem g n h → ∃ hs, h.productions = .ok hs ∧
        n + hs.countP x.mem = ps.countP x.mem ∧
        (∀ i p, h.at? i = .ok (some p) → (h.pop (some i)).result = .ok p) ∧
        ((∀ p ∈ hs, x.mem p = false) → h.equal d = true ∧ h.productions = d.productions)) ∧
      (∃ h, Removes x.mem g (ps.countP x.mem) h) ∧
      (∀ b, ReachableFrom IsAccepted b → b.IsUsable →
        ∃ u l e r, (g.union (.grammar b)).result = .ok u ∧
          (u.difference (.grammar x)).result = .ok l ∧
          (b.difference (.grammar x)).result = .ok e ∧
          (d.union (.grammar e)).result = .ok r ∧ l.equal r = true) ∧
      (∀ y ys, ReachableFrom IsAccepted y → y.productions = .ok ys →
        ∃ u, (x.union (.grammar y)).result = .ok u ∧
          (x.IsUsable → ∃ us, u.productions = .ok us) ∧
          ∀ us, u.productions = .ok us →
            ∃ l r, (g.difference (.grammar u)).result = .ok l ∧
              (d.difference (.grammar y)).result = .ok r ∧ l.equal r = true) ∧
      g.difference .itself = g.difference (.grammar g) := by
  have hsound : g.IsSound := ⟨husable, hg.exists_represents⟩
  obtain ⟨L, hL⟩ := hg.exists_represents
  obtain ⟨M, hM⟩ := hx.exists_represents
  obtain ⟨ps, hps⟩ := hL.exists_productions husable
  obtain ⟨d, hd, hdsound, hproductions, htexts⟩ := hsound.exists_difference_texts hps hM hxs
  refine ⟨ps, d, hps, hd, hproductions, ?_, exists_removes hsound hps, ?_, ?_, rfl⟩
  · intro n h hrun
    obtain ⟨hs, hhsound, hhs, hcount, hkept⟩ := hrun.exists_productions hsound hps
    obtain ⟨L', hL'⟩ := hhsound.represents
    refine ⟨hs, hhs, hcount, fun i p hfound => ?_, fun hnone => ?_⟩
    · obtain ⟨_, -, hresult, -⟩ := exists_pop_of_at? hL' hhs hhsound.usable hfound
      exact hresult
    · have hall : hs.filter (!x.mem ·) = hs := List.filter_eq_self.mpr fun p hp => by
        rw [hnone p hp, Bool.not_false]
      have hsame : hs = ps.filter (!x.mem ·) := hall.symm.trans hkept
      refine ⟨hhsound.equal_of_texts hdsound ?_, by rw [hhs, hproductions, hsame]⟩
      rw [← map_sideTexts_productions hhs, ← map_sideTexts_productions hproductions, hsame]
  · intro b hb husable'
    have hbsound : b.IsSound := ⟨husable', hb.exists_represents⟩
    obtain ⟨bs, hbs⟩ := hb.exists_represents.elim fun _ hB => hB.exists_productions husable'
    obtain ⟨u, hu, husound, hunion⟩ := hsound.exists_union_texts hbs
    obtain ⟨us, hus⟩ := husound.represents.elim fun _ hU => hU.exists_productions husound.usable
    obtain ⟨l, hl, hlsound, -, hltexts⟩ := husound.exists_difference_texts hus hM hxs
    obtain ⟨e, he, hesound, hes, hetexts⟩ := hbsound.exists_difference_texts hbs hM hxs
    obtain ⟨r, hr, hrsound, hjoined⟩ := hdsound.exists_union_texts hes
    obtain ⟨_, hl'⟩ := hlsound.represents
    obtain ⟨_, hr'⟩ := hrsound.represents
    refine ⟨u, l, e, r, hu, hl, he, hr, (hl'.equal_iff_texts hr').mpr fun key => ?_⟩
    rw [hltexts, daughterTexts_filter, hunion, List.filter_append, hjoined, htexts, hetexts,
      daughterTexts_filter, daughterTexts_filter]
  · intro y ys hy hys
    obtain ⟨N, hN⟩ := hy.exists_represents
    obtain ⟨u, hu, ⟨M', hU⟩, hread, hmem⟩ := hM.exists_union_mem_texts hxs hys
    refine ⟨u, hu, hread, fun us hus => ?_⟩
    obtain ⟨l, hl, hlsound, -, hltexts⟩ := hsound.exists_difference_texts hps hU hus
    obtain ⟨r, hr, hrsound, -, hrtexts⟩ := hdsound.exists_difference_texts hproductions hN hys
    refine ⟨l, r, hl, hr, hlsound.equal_of_texts hrsound ?_⟩
    rw [hltexts, hrtexts, htexts, List.filter_filter]
    refine List.filter_congr fun sides _ => ?_
    rw [Bool.eq_iff_iff, Bool.and_eq_true, decide_eq_true_iff, decide_eq_true_iff,
      decide_eq_true_iff, hmem, not_or, and_comm]

/-- A production that is there twice is left out, and the only one with another head. It is the same
when the three of them are removed by the indices that they have then. -/
theorem difference_laws_repeated :
    ∃ g x d h, ReachableFrom IsAccepted g ∧ g.IsUsable ∧ ReachableFrom IsAccepted x ∧
      ∃ p q r xs, g.productions = .ok [p, p, q, r] ∧ x.productions = .ok xs ∧
        (g.difference (.grammar x)).result = .ok d ∧ d.productions = .ok [q] ∧
        h = (((g.pop (some (-1))).grammar.pop (some 1)).grammar.pop (some 0)).grammar ∧
        h.equal d = true ∧ h.productions = .ok [q] := by
  let s : Symbol := ⟨"S", .square⟩
  let t : Symbol := ⟨"T", .square⟩
  let p : Production := ⟨[s], [t], by simp⟩
  let q : Production := ⟨[s], [], by simp⟩
  let r : Production := ⟨[t], [], by simp⟩
  let g : Grammar := { (empty {}).addAll [p, r, p, q] with start := some s }
  let x : Grammar := { (empty {}).addAll [r, p] with start := some t }
  have hg : ReachableFrom IsAccepted g :=
    .initial ⟨{}, .given (.list [.production p, .production r, .production p, .production q]),
      .null, rfl⟩
  have hx : ReachableFrom IsAccepted x :=
    .initial ⟨{}, .given (.list [.production r, .production p]), .null, rfl⟩
  have husable : g.IsUsable := ⟨⟨.square, rfl⟩, by simp [g, add, empty, p, q, r]⟩
  have hps : g.productions = .ok [p, p, q, r] := rfl
  have hxs : x.productions = .ok [r, p] := rfl
  have hrun : Removes x.mem g 3
      (((g.pop (some (-1))).grammar.pop (some 1)).grammar.pop (some 0)).grammar := by
    have hfirst : (g.pop (some (-1))).grammar =
        { (empty {}).addAll [p, p, q] with start := some s } := by
      have hlocate : g.locate (-1) = some ([t], 0) := rfl
      rw [pop, hlocate]
      cbv
    have hsecond : (pop { (empty {}).addAll [p, p, q] with start := some s } (some 1)).grammar =
        { (empty {}).addAll [p, q] with start := some s } := by
      have hlocate : locate { (empty {}).addAll [p, p, q] with start := some s } 1 =
          some ([s], 1) := rfl
      rw [pop, hlocate]
      cbv
    rw [hfirst, hsecond]
    refine .next (i := -1) (p := r) rfl (by decide) ?_
    rw [hfirst]
    refine .next (i := 1) (p := p) rfl (by decide) ?_
    rw [hsecond]
    exact .next (i := 0) (p := p) rfl (by decide) (.done _)
  obtain ⟨ps, d, hps', hd, hds, hremoved, -⟩ := hg.difference_laws husable hx hxs
  cases hps.symm.trans hps'
  have hkept : ([p, p, q, r].filter (!x.mem ·)) = [q] := rfl
  rw [hkept] at hds
  obtain ⟨hs, hhs, hcount, -, hsame⟩ := hremoved 3 _ hrun
  have hnone : ∀ p ∈ hs, x.mem p = false := by
    have hthree : [p, p, q, r].countP x.mem = 3 := rfl
    intro p' hp'
    rw [hthree] at hcount
    have hzero : hs.countP x.mem = 0 := by omega
    simpa using List.countP_eq_zero.mp hzero p' hp'
  obtain ⟨hequal, hproductions⟩ := hsame hnone
  exact ⟨g, x, d, _, hg, husable, hx, p, q, r, _, hps, hxs, hd, hds, rfl, hequal,
    hproductions.trans hds⟩

/-- A grammar that cannot be iterated over cannot be taken away: the table of two heads one of which
has no symbol. -/
theorem not_difference_laws_headless :
    ¬ ∀ g x ps, ReachableFrom IsAccepted g → g.IsUsable → ReachableFrom IsAccepted x →
      g.productions = .ok ps →
      ∃ d, (g.difference (.grammar x)).result = .ok d ∧
        d.productions = .ok (ps.filter (!x.mem ·)) := by
  intro h
  let p : Production := ⟨[⟨"S", .square⟩], [⟨"[a]", .square⟩], by simp⟩
  let g : Grammar := { (empty {}).addAll [p] with start := some ⟨"S", .square⟩ }
  have hg : ReachableFrom IsAccepted g :=
    .initial ⟨{}, .given (.list [.production p]), .null, rfl⟩
  have husable : g.IsUsable := ⟨⟨.square, rfl⟩, by simp [g, add, empty, p]⟩
  obtain ⟨d, hd, -⟩ := h g headless [p] hg husable (.initial isAccepted_headless) rfl
  have hfails : (g.difference (.grammar headless)).result = .error .noHead := rfl
  cases hfails.symm.trans hd

end PhraseStructure.Grammar
