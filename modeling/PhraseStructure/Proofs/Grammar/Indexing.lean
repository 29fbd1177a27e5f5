import PhraseStructure.Proofs.Grammar.Removal
import PhraseStructure.Proofs.Position

/-!
# Productions by their index

An index counts the productions in the order of iteration, from the front or, if it is negative,
from the end (`locate_eq`). Where it names one, this production is looked up and removed by it;
elsewhere it is out of range, and nothing changes. A removal also takes one entry out of the order
of addition, the one that belongs to the production, and the start symbol is chosen by what is left
then (`ReachableFrom.index_laws`).
-/

namespace PhraseStructure.Grammar

variable {g g' : Grammar} {L : List (List Symbol × List Symbol)} {buckets : List Bucket}
  {head d : List Symbol} {n k : Nat} {i : Int} {p : Production} {ps : List Production}

section Locating

/-- Behind the last bucket there is no production. -/
theorem locateIn_of_le (h : sizeIn buckets ≤ k) : locateIn buckets k = none := by
  induction buckets generalizing k with
  | nil => rfl
  | cons bucket rest ih =>
    rw [sizeIn] at h
    rw [locateIn, if_neg (by omega)]
    exact ih (by omega)

/-- An index names what the place names that it stands for. -/
theorem locate_eq (g : Grammar) (i : Int) :
    g.locate i = (resolveIndex g.size i).bind (locateIn g.buckets) := by
  rw [locate]
  cases hk : resolveIndex g.size i with
  | some k =>
    rw [resolveIndex_eq_some_iff] at hk
    rw [← hk.2, if_neg (by omega), Int.toNat_natCast, Option.bind_some]
  | none =>
    rw [resolveIndex_eq_none_iff] at hk
    rw [Option.bind_none, ite_eq_left_iff]
    intro hlow
    refine locateIn_of_le ?_
    change g.size ≤ _
    split at hlow <;> split <;> omega

/-- If all productions can be read, there are as many as the grammar counts. -/
theorem length_productions (hps : g.productions = .ok ps) : ps.length = g.size := by
  have hreadings := congrArg List.length (mapM_id_eq_ok_iff.mp hps)
  rw [readings, List.length_map, List.length_map] at hreadings
  rw [← hreadings, size, ← length_pairsIn]
  rfl

/-- An index within the length of the iteration names a production there and under its head. -/
theorem Represents.exists_located (hL : Represents g L) (hps : g.productions = .ok ps)
    (hk : resolveIndex ps.length i = some k) :
    ∃ head n d p, ps[k]? = some p ∧ g.locate i = some (head, n) ∧
      locateIn g.buckets k = some (head, n) ∧ (g.pairs.take k).countP (·.1 == head) = n ∧
      (g.daughtersOf head)[n]? = some d ∧
      Production.rewrap head d g.conventions.brackets = .ok p ∧ g.at? i = .ok (some p) := by
  have hlt := lt_of_resolveIndex hk
  have hsize : g.pairs.length = ps.length := (length_pairsIn g.buckets).trans
    (length_productions hps).symm
  obtain ⟨⟨head, d⟩, hpair⟩ : ∃ e, g.pairs[k]? = some e :=
    ⟨_, List.getElem?_eq_getElem (by omega)⟩
  obtain ⟨p, hp, hread⟩ := getElem?_productions hps hpair
  obtain ⟨hplace, hd⟩ := locateIn_eq_some hL.headsDiffer hpair rfl
  have hlocate : ∀ j : Int, resolveIndex ps.length j = some k →
      g.locate j = locateIn g.buckets k := by
    intro j hj
    rw [locate_eq, ← length_productions hps, hj, Option.bind_some]
  have hfound : g.at? i = .ok (some p) := by
    have hnat := at?_of_getElem? hL hps hp
    unfold at? at hnat ⊢
    rwa [hlocate i hk, ← hlocate k (resolveIndex_natCast hlt)]
  exact ⟨head, _, d, p, hp, (hlocate i hk).trans hplace, hplace, rfl, hd, hread, hfound⟩

end Locating

section Choosing

/-- The start symbol of a grammar for which one was chosen before: that one if it is a non-terminal,
and otherwise the first symbol of the head that was added first. -/
def startAfter (g : Grammar) (start : Option Symbol) : Option Symbol :=
  if start.any g.nonterminals.contains then start else g.additions.head?.bind List.head?

/-- With a symbol in each head, the default start symbol is the first of the first head. -/
theorem defaultStart_eq (h : [] ∉ g.additions) :
    g.defaultStart = .ok (g.additions.head?.bind List.head?) := by
  unfold defaultStart
  split
  · next hnone =>
    rw [hnone]
    rfl
  · next heads hheads => exact absurd (hheads ▸ List.mem_cons_self) h
  · next s rest heads hheads =>
    rw [hheads]
    rfl

/-- With a symbol in each head, a start symbol is always found. -/
theorem inheritStart_eq (h : [] ∉ g.additions) (start : Option Symbol) :
    g.inheritStart start = .ok { g with start := g.startAfter start } := by
  have hdefault := defaultStart_eq h
  cases start with
  | none => simp [inheritStart, startAfter, hdefault]
  | some s =>
    by_cases hs : g.nonterminals.contains s = true
    · simp only [inheritStart, startAfter, Option.any_some, hs, if_true]
      rfl
    · simp [inheritStart, startAfter, hs, hdefault]

/-- A production that stands at a place in the iteration, and under its head behind `n` others, is
taken out of both and out of the order of addition. -/
theorem Represents.exists_removeAt (hL : Represents g L) (hg : g.IsUsable)
    (hps : g.productions = .ok ps) (hplace : locateIn g.buckets k = some (head, n))
    (hd : (g.daughtersOf head)[n]? = some d)
    (hp : Production.rewrap head d g.conventions.brackets = .ok p) :
    ∃ g' before e after, g.removeAt head n = ⟨g', [removedEntry p], .ok p⟩ ∧
      g'.productions = .ok (ps.eraseIdx k) ∧ L = before ++ e :: after ∧ IsOf p e ∧
      (e.1 == head) = true ∧ before.countP (·.1 == head) = n ∧ Represents g' (before ++ after) ∧
      g'.start = g'.startAfter g.start := by
  obtain ⟨before, e, after, rfl, he, hn, -⟩ := hL.exists_of_daughtersOf hd
  have hheads : [] ∉ (g.erase head n).additions :=
    fun hnil => hg.heads_ne_nil (forget_subset head n _ hnil)
  let g' : Grammar := { g.erase head n with start := (g.erase head n).startAfter g.start }
  have hremoved : g.removeAt head n = ⟨g', [removedEntry p], .ok p⟩ := by
    simp only [Grammar.removeAt, hd, inheritStart_eq hheads, hp]
    rfl
  obtain ⟨q, hq, hof, hrest, -⟩ := hL.removeAt hg he hn
  rw [hremoved] at hq hrest
  cases hq
  exact ⟨g', before, e, after, hremoved, productions_erase hL hps hplace _, rfl, hof, he, hn, hrest,
    rfl⟩

end Choosing

/-- Looking up and removing by an index agree with the iteration. An index within its length, from
either end, names the production at its place: it is looked up there, and it is removed there, by
which the others keep their order, in the iteration and in the order of addition. The start symbol
stays if it still is a non-terminal, and otherwise is the first symbol of the head that was added
first of those that are left. Any other index is out of range, and changes nothing. -/
theorem ReachableFrom.index_laws (hg : ReachableFrom IsAccepted g) (husable : g.IsUsable)
    (i : Int) :
    ∃ L ps, Represents g L ∧ g.productions = .ok ps ∧
      (¬(-(ps.length : Int) ≤ i ∧ i < ps.length) →
        g.atGiven? (.int i) = .ok none ∧ g.getGiven (.int i) = .error .productionRange ∧
        g.popGiven (.int i) = ⟨g, [], .error .popRange⟩ ∧
        Fault.productionRange.kind = .badPosition ∧ Fault.popRange.kind = .badPosition) ∧
      (-(ps.length : Int) ≤ i ∧ i < ps.length → ∃ k : Nat, ∃ p g' before e after,
        (k : Int) = (if i < 0 then i + ps.length else i) ∧ ps[k]? = some p ∧
        g.atGiven? (.int i) = .ok (some p) ∧ g.getGiven (.int i) = .ok p ∧
        g.popGiven (.int i) = ⟨g', [removedEntry p], .ok p⟩ ∧
        g'.productions = .ok (ps.eraseIdx k) ∧
        L = before ++ e :: after ∧ IsOf p e ∧
        before.countP (·.1 == e.1) = (g.pairs.take k).countP (·.1 == e.1) ∧
        Represents g' (before ++ after) ∧
        g'.start = if g.start.any g'.nonterminals.contains then g.start
          else (before ++ after).head?.bind fun first => first.1.head?) := by
  obtain ⟨L, hL⟩ := hg.exists_represents
  obtain ⟨ps, hps⟩ := hL.exists_productions husable
  have hat : g.atGiven? (.int i) = g.at? i := rfl
  have hget : g.getGiven (.int i) = g.get i := rfl
  have hpop : g.popGiven (.int i) = g.pop (some i) := rfl
  refine ⟨L, ps, hL, hps, fun hout => ?_, fun hin => ?_⟩
  · have hnone : g.locate i = none := by
      rw [locate_eq, ← length_productions hps, resolveIndex_eq_none_iff.mpr hout, Option.bind_none]
    have hfound : g.at? i = .ok none := by simp only [at?, hnone]
    rw [hat, hget, hpop, get, pop, hfound, hnone]
    exact ⟨rfl, rfl, rfl, rfl, rfl⟩
  · obtain ⟨k, hk⟩ : ∃ k, resolveIndex ps.length i = some k := by
      rw [← Option.isSome_iff_exists, ← Option.ne_none_iff_isSome, Ne, resolveIndex_eq_none_iff]
      exact not_not_intro hin
    obtain ⟨head, n, d, p, hp, hlocate, hplace, hn, hd, hread, hfound⟩ := hL.exists_located hps hk
    obtain ⟨g', before, e, after, hremoved, hiterated, hsplit, hof, he, hcount, hrest, hstart⟩ :=
      hL.exists_removeAt husable hps hplace hd hread
    rw [hat, hget, hpop, get, pop, hfound, hlocate]
    refine ⟨k, p, g', before, e, after, (resolveIndex_eq_some_iff.mp hk).2, hp, rfl, rfl, hremoved,
      hiterated, hsplit, hof, ?_, hrest, ?_⟩
    · have hcongr : ∀ x : List Symbol × List Symbol, (x.1 == e.1) = (x.1 == head) :=
        fun x => BEq.congr_right he
      simp only [hcongr, hcount, hn]
    · rw [hstart, startAfter, hrest.additions_eq, List.head?_map, Option.bind_map]
      rfl

/-- Of three productions of two heads, added by turns, the first one is named from the end, and it
holds the start symbol as a daughter. The start symbol goes with it, and the head that was added
first of those that are left is not the first one in the iteration. -/
theorem index_laws_interleaved :
    ∃ g p g' s t a, ReachableFrom IsAccepted g ∧ g.IsUsable ∧ g.start = some s ∧
      g.popGiven (.int (-3)) = ⟨g', [removedEntry p], .ok p⟩ ∧ g'.start = some t ∧
      g'.heads = [[a], [t]] ∧ g.getGiven (.int 3) = .error .productionRange := by
  let first : Production := ⟨[⟨"A", .square⟩], [⟨"D", .square⟩], by simp⟩
  let second : Production := ⟨[⟨"B", .square⟩], [], by simp⟩
  let third : Production := ⟨[⟨"A", .square⟩], [], by simp⟩
  let g : Grammar := { (empty {}).addAll [first, second, third] with start := some ⟨"D", .square⟩ }
  let rest : Grammar :=
    { g with
      buckets := [([⟨"A", .square⟩], [[]]), ([⟨"B", .square⟩], [[]])]
      additions := [[⟨"B", .square⟩], [⟨"A", .square⟩]]
      start := some ⟨"B", .square⟩ }
  have hmake : (make {} (.given (.list [.production first, .production second, .production third]))
      (.text "D")).result = .ok g := by cbv
  have hreach : ReachableFrom IsAccepted g := .initial ⟨_, _, _, hmake⟩
  have husable : g.IsUsable := ⟨⟨.square, rfl⟩, by simp [g, add, empty, first, second, third]⟩
  have hiterated : g.productions = .ok [first, third, second] := rfl
  have hlocate : g.locate (-3) = some ([⟨"A", .square⟩], 0) := rfl
  have hremoved : g.removeAt [⟨"A", .square⟩] 0 = ⟨rest, [removedEntry first], .ok first⟩ := by cbv
  have hrest : g.popGiven (.int (-3)) = ⟨rest, [removedEntry first], .ok first⟩ := by
    change g.pop (some (-3)) = _
    rw [pop, hlocate]
    exact hremoved
  obtain ⟨-, ps, -, hps, hout, -⟩ := hreach.index_laws husable 3
  obtain rfl := Except.ok.inj (hiterated.symm.trans hps)
  obtain ⟨_, ps', -, hps', -, hin⟩ := hreach.index_laws husable (-3)
  obtain rfl := Except.ok.inj (hiterated.symm.trans hps')
  obtain ⟨-, p, g', -, -, -, -, -, -, -, hpop, -⟩ := hin (by decide)
  obtain ⟨-, hfault, -⟩ := hout (by decide)
  obtain rfl : rest = g' := congrArg Edited.grammar (hrest.symm.trans hpop)
  exact ⟨g, p, rest, _, _, _, hreach, husable, rfl, hpop, rfl, rfl, hfault⟩

end PhraseStructure.Grammar
