import Mathlib.Data.Set.List
import PhraseStructure.Proofs.Grammar.Lookups

/-!
# The order in which a grammar is taken apart

Popping without an index takes a grammar apart (`Unwinds`): what comes out is the list that the
grammar represents, from its end (`Represents.unwinds`). A copy and a union keep that list. A
difference does not: it is filled with the productions that are left in the order of the iteration,
which is the order of addition under each head only. So it is taken apart in the reverse of the
iteration, and in the reverse of the order of addition exactly if the two are the same on what is
left (`ReachableFrom.unwinding_laws`).
-/

namespace PhraseStructure.Grammar

open Production

variable {g x : Grammar} {L M : List (List Symbol × List Symbol)}
  {added ps qs rs : List Production} {q : Production} {fault : Fault}

/-- Popping until there is nothing left returns these productions, one after the other. -/
inductive Unwinds : Grammar → List Production → Prop
  | done {g : Grammar} : (g.pop none).result = .error .popEmpty → Unwinds g []
  | next {g : Grammar} {p q : Production} {qs : List Production} : (g.pop none).result = .ok p →
      (p == q) = true → Unwinds (g.pop none).grammar qs → Unwinds g (q :: qs)

section Steps

/-- There is only one way to take a grammar apart. -/
theorem Unwinds.beq (h : Unwinds g qs) (h' : Unwinds g rs) : (qs == rs) = true := by
  induction h generalizing rs with
  | done hnone =>
    cases h' with
    | done => rfl
    | next hsome => cases hnone.symm.trans hsome
  | next hsome hp _ ih =>
    cases h' with
    | done hnone => cases hnone.symm.trans hsome
    | next hsome' hp' hrest =>
      cases hsome.symm.trans hsome'
      rw [List.cons_beq_cons, ih hrest, Bool.and_true]
      exact beq_iff_sideTexts.mpr
        ((beq_iff_sideTexts.mp hp).symm.trans (beq_iff_sideTexts.mp hp'))

/-- What popping returns can be put down as equal productions. -/
theorem Unwinds.congr (h : Unwinds g qs) (hsame : (qs == rs) = true) : Unwinds g rs := by
  induction h generalizing rs with
  | done hnone =>
    cases rs with
    | nil => exact .done hnone
    | cons r rs => cases hsame
  | next hsome hp _ ih =>
    cases rs with
    | nil => cases hsame
    | cons r rs =>
      rw [List.cons_beq_cons, Bool.and_eq_true] at hsame
      have hp' := beq_iff_sideTexts.mpr
        ((beq_iff_sideTexts.mp hp).trans (beq_iff_sideTexts.mp hsame.1))
      exact .next hsome hp' (ih hsame.2)

/-- The last one that was added is removed, and those before it stay. -/
theorem Represents.pop_last {e : List Symbol × List Symbol} (h : Represents g (L ++ [e]))
    (hg : g.IsUsable) (he : pairTexts e = q.sideTexts) :
    ∃ p, (g.pop none).result = .ok p ∧ (p == q) = true ∧ Represents (g.pop none).grammar L ∧
      (g.pop none).grammar.IsUsable := by
  obtain ⟨p, hp, ⟨hhead, hdaughters⟩, hrest, husable⟩ := h.removeAt hg BEq.rfl rfl
  rw [h.pop_none]
  rw [List.append_nil] at hrest
  refine ⟨p, hp, beq_iff_sideTexts.mpr (Eq.trans ?_ he), hrest, husable⟩
  exact congrArg₂ Sides.mk (Symbol.list_beq_iff.mp hhead) (Symbol.list_beq_iff.mp hdaughters)

/-- A grammar is taken apart from the end of the list that it represents. -/
theorem Represents.unwinds (h : Represents g L) (hg : g.IsUsable)
    (htexts : L.map pairTexts = qs.map sideTexts) : Unwinds g qs.reverse := by
  induction qs using List.reverseRecOn generalizing g L with
  | nil =>
    obtain rfl : L = [] := List.map_eq_nil_iff.mp htexts
    refine .done ?_
    have hnone : g.additions.getLast? = none := by simp [h.additions_eq]
    simp only [pop, hnone]
  | append_singleton qs q ih =>
    rw [List.map_append, List.map_eq_append_iff] at htexts
    obtain ⟨init, last, rfl, hinit, hlast⟩ := htexts
    obtain ⟨e, rfl, he⟩ := List.map_eq_singleton_iff.mp hlast
    obtain ⟨p, hp, hsame, hrest, husable⟩ := h.pop_last hg he
    rw [List.reverse_append, List.reverse_singleton, List.singleton_append]
    exact .next hp hsame (ih hrest husable hinit)

end Steps

section Orders

/-- Without an empty head, what a grammar represents are the sides of productions. -/
theorem Represents.exists_map_sides (h : Represents g L) (hg : g.IsUsable) :
    ∃ added : List Production, added.map sides = L := by
  have hall : ∀ e ∈ L, e ∈ Set.range sides := by
    intro e he
    refine ⟨⟨e.1, e.2, fun hnil => hg.heads_ne_nil ?_⟩, rfl⟩
    rw [h.additions_eq, ← hnil]
    exact List.mem_map_of_mem he
  rwa [← Set.mem_range, Set.range_list_map]

/-- Under each head the productions are iterated over as they were added, and so are those of them
that do not occur in another grammar. -/
theorem Represents.filter_head_filter_mem (hL : Represents g (added.map sides))
    (hps : g.productions = .ok ps) (hM : Represents x M) (head : List Symbol) :
    ((ps.filter (!x.mem ·)).filter (·.head == head) ==
      (added.filter (!x.mem ·)).filter (·.head == head)) = true := by
  rw [filter_head_beq_iff, hM.map_sideTexts_filter_mem, hM.map_sideTexts_filter_mem,
    daughterTexts_filter, daughterTexts_filter, map_sideTexts_productions hps,
    hL.daughterTexts_pairs, map_pairTexts_sides]

end Orders

section Failing

/-- A sequence of rules one of which cannot be read is not added to a copy. -/
theorem union_result_eq_error {rules : Rules} (h : rules.productions g = .error fault) :
    (g.union rules).result = .error fault := by
  unfold union
  rcases bind_eq_error_iff.mp h with hrules | ⟨readings, hreadings, hfails⟩
  · rw [hrules]
  · obtain ⟨front, rest, rfl⟩ := exists_of_mapM_id_eq_error hfails
    simp only [hreadings, addReadings_append_error]
    rfl

/-- A difference from rules one of which cannot be read fails like the reading of this one. -/
theorem difference_result_eq_error {rules : Rules} (h : rules.productions g = .error fault) :
    (g.difference rules).result = .error fault := by
  rw [Rules.productions] at h
  simp only [difference, h]

end Failing

/-- A copy is taken apart in the reverse of the order of addition, and a union as well, once the
productions that came from the other grammar are popped, in the reverse of their iteration. A
difference is taken apart in the reverse of the iteration over what is left of the grammar. This is
the reverse of the order of addition under each head, and altogether exactly if the iteration over
what is left comes in that order. A grammar that cannot be iterated over has neither. -/
theorem ReachableFrom.unwinding_laws (hg : ReachableFrom IsAccepted g) (husable : g.IsUsable)
    (hx : ReachableFrom IsAccepted x) :
    ∃ added ps : List Production, Represents g (added.map sides) ∧ g.productions = .ok ps ∧
      Unwinds g.copy added.reverse ∧
      (∀ xs, x.productions = .ok xs →
        (∃ u, (g.union (.grammar x)).result = .ok u ∧ Unwinds u (xs.reverse ++ added.reverse)) ∧
        ∃ d, (g.difference (.grammar x)).result = .ok d ∧
          Unwinds d (ps.filter (!x.mem ·)).reverse ∧
          (∀ head, ((ps.filter (!x.mem ·)).filter (·.head == head) ==
            (added.filter (!x.mem ·)).filter (·.head == head)) = true) ∧
          (Unwinds d (added.filter (!x.mem ·)).reverse ↔
            (ps.filter (!x.mem ·) == added.filter (!x.mem ·)) = true)) ∧
      (∀ fault, x.productions = .error fault →
        (g.union (.grammar x)).result = .error fault ∧
          (g.difference (.grammar x)).result = .error fault) ∧
      g.union .itself = g.union (.grammar g) ∧
      g.difference .itself = g.difference (.grammar g) := by
  obtain ⟨L, hL⟩ := hg.exists_represents
  obtain ⟨M, hM⟩ := hx.exists_represents
  obtain ⟨added, rfl⟩ := hL.exists_map_sides husable
  obtain ⟨ps, hps⟩ := hL.exists_productions husable
  have hcopy : Unwinds g.copy added.reverse := hL.unwinds husable (map_pairTexts_sides added)
  refine ⟨added, ps, hL, hps, hcopy, fun xs hxs => ⟨?_, ?_⟩, fun fault hfault => ?_, rfl, rfl⟩
  · obtain ⟨u, hu, hU, huusable, -⟩ :=
      hL.exists_union husable ((Rules.productions_grammar g x).trans hxs)
    rw [← List.map_append] at hU
    rw [← List.reverse_append]
    exact ⟨u, hu, hU.unwinds huusable (map_pairTexts_sides _)⟩
  · obtain ⟨d, hd, hD, -, hdusable, -⟩ :=
      exists_represents_difference husable hps ((Rules.productions_grammar g x).trans hxs)
    simp only [contains_productions hM hxs] at hD
    have hunwinds := hD.unwinds hdusable (map_pairTexts_sides _)
    have hreversed : ∀ qs rs : List Production,
        (qs.reverse == rs.reverse) = true ↔ (qs == rs) = true := by
      intro qs rs
      rw [Production.list_beq_iff, Production.list_beq_iff, List.map_reverse, List.map_reverse,
        List.reverse_inj]
    refine ⟨d, hd, hunwinds, hL.filter_head_filter_mem hps hM, ?_⟩
    rw [← hreversed]
    exact ⟨hunwinds.beq, hunwinds.congr⟩
  · have hrules := (Rules.productions_grammar g x).trans hfault
    exact ⟨union_result_eq_error hrules, difference_result_eq_error hrules⟩

/-- The second of two rules for a head is added after a rule for another head. The copy gives it
back first, and the difference gives it back last. -/
theorem unwinding_laws_interleaved :
    ∃ g x u d, ∃ p q r : Production, ReachableFrom IsAccepted g ∧ g.IsUsable ∧
      ReachableFrom IsAccepted x ∧ Represents g ([p, q, r].map sides) ∧
      g.productions = .ok [p, r, q] ∧ x.productions = .ok [p] ∧ Unwinds g.copy [r, q, p] ∧
      (g.union (.grammar x)).result = .ok u ∧ Unwinds u [p, r, q, p] ∧
      (g.difference (.grammar x)).result = .ok d ∧ Unwinds d [q, r] ∧ ¬ Unwinds d [r, q] := by
  let s : Symbol := ⟨"A", .square⟩
  let t : Symbol := ⟨"B", .square⟩
  let p : Production := ⟨[s], [⟨"[a]", .square⟩], by simp⟩
  let q : Production := ⟨[t], [⟨"[b]", .square⟩], by simp⟩
  let r : Production := ⟨[s], [⟨"[c]", .square⟩], by simp⟩
  let g : Grammar := { (empty {}).addAll [p, q, r] with start := some s }
  let x : Grammar := { (empty {}).addAll [p] with start := some s }
  have hg : ReachableFrom IsAccepted g :=
    .initial ⟨{}, .given (.list [.production p, .production q, .production r]), .null, rfl⟩
  have hx : ReachableFrom IsAccepted x :=
    .initial ⟨{}, .given (.list [.production p]), .null, rfl⟩
  have husable : g.IsUsable := ⟨⟨.square, rfl⟩, by simp [g, add, empty, p, q, r]⟩
  have hrepresents : Represents g ([p, q, r].map sides) :=
    ((Represents.empty {}).addAll [p, q, r]).congr rfl rfl
  obtain ⟨added, ps, hL, hps, hcopy, hderived, -⟩ := hg.unwinding_laws husable hx
  obtain rfl : added = [p, q, r] :=
    List.map_injective_iff.mpr sides_injective (hL.unique hrepresents)
  obtain rfl : [p, r, q] = ps := Except.ok.inj (Eq.trans rfl hps)
  obtain ⟨⟨u, hu, hunion⟩, d, hd, hdifference, -, hiff⟩ := hderived [p] rfl
  refine ⟨g, x, u, d, p, q, r, hg, husable, hx, hrepresents, hps, rfl, hcopy, hu, hunion, hd,
    hdifference, fun hadded => ?_⟩
  cases hiff.mp hadded

/-- Even when nothing is taken away, a difference need not be taken apart in the reverse of the
order of addition. -/
theorem not_unwinds_difference :
    ¬ ∀ (g x : Grammar) (added : List Production), ReachableFrom IsAccepted g → g.IsUsable →
      ReachableFrom IsAccepted x → Represents g (added.map sides) →
      ∃ d, (g.difference (.grammar x)).result = .ok d ∧
        Unwinds d (added.filter (!x.mem ·)).reverse := by
  intro h
  let s : Symbol := ⟨"A", .square⟩
  let t : Symbol := ⟨"B", .square⟩
  let p : Production := ⟨[s], [⟨"[a]", .square⟩], by simp⟩
  let q : Production := ⟨[t], [⟨"[b]", .square⟩], by simp⟩
  let r : Production := ⟨[s], [⟨"[c]", .square⟩], by simp⟩
  let g : Grammar := { (empty {}).addAll [p, q, r] with start := some s }
  have hg : ReachableFrom IsAccepted g :=
    .initial ⟨{}, .given (.list [.production p, .production q, .production r]), .null, rfl⟩
  have hx : ReachableFrom IsAccepted (empty {}) := .initial ⟨{}, .given .null, .null, rfl⟩
  have husable : g.IsUsable := ⟨⟨.square, rfl⟩, by simp [g, add, empty, p, q, r]⟩
  have hrepresents : Represents g ([p, q, r].map sides) :=
    ((Represents.empty {}).addAll [p, q, r]).congr rfl rfl
  have hps : g.productions = .ok [p, r, q] := rfl
  have hnone : (Rules.grammar (empty {})).productions g = .ok [] := rfl
  obtain ⟨d, hd, hD, -, hdusable, -⟩ := exists_represents_difference husable hps hnone
  have hiterated : Unwinds d [q, r, p] := hD.unwinds hdusable (map_pairTexts_sides _)
  obtain ⟨d', hd', hadded⟩ := h g (empty {}) [p, q, r] hg husable hx hrepresents
  cases hd.symm.trans hd'
  cases hiterated.beq hadded

end PhraseStructure.Grammar
