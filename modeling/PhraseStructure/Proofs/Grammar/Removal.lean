import Mathlib.Data.List.Perm.Basic
import PhraseStructure.Proofs.Grammar.Failure
import PhraseStructure.Proofs.Grammar.Regrouping

/-!
# Removing productions by their places

An index counts the productions in the order of iteration, and what is stored is a place under a
head. The two agree (`getElem?_pairsIn`), so that a removal takes one production out of the
iteration and leaves all others in their order (`pairsIn_eraseFrom`), also where a head goes with
its last daughters. A grammar whose productions can be read is emptied of some of them one after
another in any order (`Removes`), and what is left then does not depend on the order
(`Removes.exists_productions`).
-/

namespace PhraseStructure.Grammar

variable {g h : Grammar} {L : List (List Symbol × List Symbol)} {buckets : List Bucket}
  {head d : List Symbol} {n k : Nat} {i : Int} {p : Production} {ps hs : List Production}

section Places

/-- What is located in some buckets stands under one of their heads. -/
theorem hasHead_of_locateIn (h : locateIn buckets k = some (head, n)) : HasHead buckets head := by
  induction buckets generalizing k with
  | nil => cases h
  | cons bucket rest ih =>
    rw [locateIn] at h
    split at h
    · obtain ⟨rfl, -⟩ := Prod.mk.inj (Option.some.inj h)
      exact hasHead_cons.mpr (.inl BEq.rfl)
    · exact hasHead_cons.mpr (.inr (ih h))

/-- The place of a production under its head is found by its index. -/
theorem getElem?_pairsIn (hdiffer : HeadsDiffer buckets)
    (h : locateIn buckets k = some (head, n)) :
    (pairsIn buckets)[k]? = (lookup head buckets)[n]?.map (head, ·) := by
  induction buckets generalizing k with
  | nil => cases h
  | cons bucket rest ih =>
    obtain ⟨first, ds⟩ := bucket
    obtain ⟨hfirst, hrest⟩ := headsDiffer_cons.mp hdiffer
    rw [locateIn] at h
    rw [pairsIn_cons, lookup]
    split at h
    · next hk =>
      obtain ⟨rfl, rfl⟩ := Prod.mk.inj (Option.some.inj h)
      rw [List.getElem?_append_left (by simpa using hk), List.getElem?_map, if_pos BEq.rfl]
    · next hk =>
      have hne : ¬(first == head) = true := fun hsame =>
        hfirst ((hasHead_congr hsame).mpr (hasHead_of_locateIn h))
      rw [List.getElem?_append_right (by simpa using hk), List.length_map, if_neg hne]
      exact ih hrest h

/-- Removing daughters from their place under a head takes one pair out and moves no other. -/
theorem pairsIn_eraseFrom (hdiffer : HeadsDiffer buckets)
    (h : locateIn buckets k = some (head, n)) :
    pairsIn (eraseFrom head n buckets) = (pairsIn buckets).eraseIdx k := by
  induction buckets generalizing k with
  | nil => cases h
  | cons bucket rest ih =>
    obtain ⟨first, ds⟩ := bucket
    obtain ⟨hfirst, hrest⟩ := headsDiffer_cons.mp hdiffer
    rw [locateIn] at h
    rw [eraseFrom, pairsIn_cons]
    split at h
    · next hk =>
      obtain ⟨rfl, rfl⟩ := Prod.mk.inj (Option.some.inj h)
      rw [if_pos BEq.rfl, List.eraseIdx_append_of_lt_length (by simpa using hk), List.eraseIdx_map]
      split
      · next hempty =>
        rw [List.isEmpty_iff.mp hempty, List.map_nil, List.nil_append]
      · rw [pairsIn_cons]
    · next hk =>
      have hne : ¬(first == head) = true := fun hsame =>
        hfirst ((hasHead_congr hsame).mpr (hasHead_of_locateIn h))
      rw [if_neg hne, pairsIn_cons, ih hrest h,
        List.eraseIdx_append_of_length_le (by simpa using hk), List.length_map]

/-- What an index locates in a grammar, counted from either end, stands at a place in its
buckets. -/
theorem exists_locateIn (h : g.locate i = some (head, n)) :
    ∃ k, locateIn g.buckets k = some (head, n) := by
  unfold locate at h
  rw [Option.ite_none_left_eq_some] at h
  exact ⟨_, h.2⟩

end Places

section Removing

variable (hL : Represents g L) (hps : g.productions = .ok ps)

include hps in
/-- The production at a place is read from the pair that stands there. -/
theorem getElem?_productions (hpair : g.pairs[k]? = some (head, d)) :
    ∃ p, ps[k]? = some p ∧ Production.rewrap head d g.conventions.brackets = .ok p := by
  have hreadings : g.readings = ps.map .ok := mapM_id_eq_ok_iff.mp hps
  have hread : (ps.map Except.ok)[k]? =
      some (Production.rewrap head d g.conventions.brackets) := by
    rw [← hreadings, readings, List.getElem?_map, hpair]
    rfl
  rw [List.getElem?_map] at hread
  obtain ⟨p, hp, hsame⟩ := Option.map_eq_some_iff.mp hread
  exact ⟨p, hp, hsame.symm⟩

include hL hps

/-- An index that is looked up successfully names a place in the iteration and one under a head. -/
theorem exists_place_of_at? (h : g.at? i = .ok (some p)) :
    ∃ k head n d, ps[k]? = some p ∧ g.locate i = some (head, n) ∧
      locateIn g.buckets k = some (head, n) ∧ (g.daughtersOf head)[n]? = some d ∧
      Production.rewrap head d g.conventions.brackets = .ok p := by
  unfold at? at h
  split at h
  · cases h
  · next head n hlocate =>
    split at h
    · cases h
    · next d hd =>
      obtain ⟨q, hq, hsame⟩ := bind_eq_ok_iff.mp h
      obtain rfl : q = p := Option.some.inj (Except.ok.inj hsame)
      obtain ⟨k, hk⟩ := exists_locateIn hlocate
      have hpair : g.pairs[k]? = some (head, d) := by
        have hfound := getElem?_pairsIn hL.headsDiffer hk
        rw [← daughtersOf, hd] at hfound
        exact hfound
      obtain ⟨q', hq', hread⟩ := getElem?_productions hps hpair
      cases hq.symm.trans hread
      exact ⟨k, head, n, d, hq', hlocate, hk, hd, hq⟩

/-- Without the production at a place under a head the others are iterated in the same order. -/
theorem productions_erase (hplace : locateIn g.buckets k = some (head, n)) (s : Option Symbol) :
    productions { g.erase head n with start := s } = .ok (ps.eraseIdx k) := by
  have hpairs : (g.erase head n).pairs = g.pairs.eraseIdx k :=
    pairsIn_eraseFrom hL.headsDiffer hplace
  have hreadings : (g.erase head n).readings = (ps.eraseIdx k).map .ok := by
    rw [readings, hpairs, ← List.eraseIdx_map, ← List.eraseIdx_map, ← mapM_id_eq_ok_iff.mp hps]
    rfl
  exact mapM_id_eq_ok_iff.mpr hreadings

/-- The production that is found at an index is removed and returned there, and nothing else changes
in the iteration. -/
theorem exists_pop_of_at? (hg : g.IsUsable) (h : g.at? i = .ok (some p)) :
    ∃ k, ps[k]? = some p ∧ (g.pop (some i)).result = .ok p ∧
      (g.pop (some i)).grammar.productions = .ok (ps.eraseIdx k) ∧
      (g.pop (some i)).grammar.IsSound := by
  obtain ⟨k, head, n, d, hk, hlocate, hplace, hd, hread⟩ := exists_place_of_at? hL hps h
  have hheads : [] ∉ (g.erase head n).additions :=
    fun hnil => hg.heads_ne_nil (forget_subset head n _ hnil)
  obtain ⟨s, hremoved⟩ := removeAt_eq hd hheads hread
  have hpop : g.pop (some i) = g.removeAt head n := by simp only [pop, hlocate]
  have hsound := IsSound.removeAt ⟨hg, L, hL⟩ head n
  rw [hremoved] at hsound
  rw [hpop, hremoved]
  exact ⟨k, hk, rfl, productions_erase hL hps hplace s, hsound⟩

/-- Every place in the iteration is found at its index. -/
theorem at?_of_getElem? (hk : ps[k]? = some p) : g.at? k = .ok (some p) := by
  have hlength : g.pairs.length = ps.length := by
    have hreadings := congrArg List.length (mapM_id_eq_ok_iff.mp hps)
    rwa [readings, List.length_map, List.length_map] at hreadings
  obtain ⟨hlt, -⟩ := List.getElem?_eq_some_iff.mp hk
  obtain ⟨⟨head, d⟩, hpair⟩ : ∃ e, g.pairs[k]? = some e :=
    ⟨_, List.getElem?_eq_getElem (hlength ▸ hlt)⟩
  obtain ⟨q, hq, hread⟩ := getElem?_productions hps hpair
  obtain rfl : q = p := Option.some.inj (hq.symm.trans hk)
  obtain ⟨hplace, hfound⟩ := locateIn_eq_some hL.headsDiffer hpair rfl
  have hlocate : g.locate k = some (head, (g.pairs.take k).countP (·.1 == head)) := by
    rw [locate, if_neg (by omega), if_neg (by omega)]
    exact hplace
  have hdaughters : (g.daughtersOf head)[(g.pairs.take k).countP (·.1 == head)]? = some d := hfound
  simp only [at?, hlocate, hdaughters, hread]
  rfl

end Removing

section Emptying

variable {drop : Production → Bool}

/-- Of a grammar, some productions are removed one by one, each by an index where it is found. -/
inductive Removes (drop : Production → Bool) : Grammar → Nat → Grammar → Prop
  | done (g : Grammar) : Removes drop g 0 g
  | next {g h : Grammar} {i : Int} {p : Production} {n : Nat} : g.at? i = .ok (some p) →
      drop p = true → Removes drop (g.pop (some i)).grammar n h → Removes drop g (n + 1) h

/-- Removing one of the productions to be dropped leaves one less. -/
theorem countP_eraseIdx (hk : ps[k]? = some p) (hp : drop p = true) :
    (ps.eraseIdx k).countP drop + 1 = ps.countP drop := by
  obtain ⟨hlt, rfl⟩ := List.getElem?_eq_some_iff.mp hk
  rw [← (List.getElem_cons_eraseIdx_perm hlt).countP_eq drop, List.countP_cons_of_pos hp]

/-- Removing one of the productions to be dropped does not concern the others. -/
theorem filter_eraseIdx_of_drop (hk : ps[k]? = some p) (hp : drop p = true) :
    (ps.eraseIdx k).filter (!drop ·) = ps.filter (!drop ·) := by
  obtain ⟨hlt, rfl⟩ := List.getElem?_eq_some_iff.mp hk
  conv_rhs => rw [← List.take_append_drop k ps, List.drop_eq_getElem_cons hlt]
  rw [List.eraseIdx_eq_take_drop_succ, List.filter_append, List.filter_append,
    List.filter_cons_of_neg (by simpa using hp)]

/-- Each removal takes one of these productions away, and leaves all others in their order. -/
theorem Removes.exists_productions (hrun : Removes drop g n h) (hg : g.IsSound)
    (hps : g.productions = .ok ps) :
    ∃ hs, h.IsSound ∧ h.productions = .ok hs ∧ n + hs.countP drop = ps.countP drop ∧
      hs.filter (!drop ·) = ps.filter (!drop ·) := by
  induction hrun generalizing ps with
  | done g => exact ⟨ps, hg, hps, Nat.zero_add _, rfl⟩
  | next hfound hdrop _ ih =>
    obtain ⟨L, hL⟩ := hg.represents
    obtain ⟨k, hk, -, hrest, hsound⟩ := exists_pop_of_at? hL hps hg.usable hfound
    obtain ⟨hs, hsound', hhs, hcount, hkept⟩ := ih hsound hrest
    have hone := countP_eraseIdx hk hdrop
    exact ⟨hs, hsound', hhs, by omega, hkept.trans (filter_eraseIdx_of_drop hk hdrop)⟩

/-- There is always a next one to remove, until none is left. -/
theorem exists_removes (hg : g.IsSound) (hps : g.productions = .ok ps) :
    ∃ h, Removes drop g (ps.countP drop) h := by
  induction hcount : ps.countP drop generalizing g ps with
  | zero => exact ⟨g, .done g⟩
  | succ n ih =>
    obtain ⟨p, hmem, hp⟩ := List.countP_pos_iff.mp (by omega : 0 < ps.countP drop)
    obtain ⟨k, hk⟩ := List.mem_iff_getElem?.mp hmem
    obtain ⟨L, hL⟩ := hg.represents
    have hfound := at?_of_getElem? hL hps hk
    obtain ⟨k', hk', -, hrest, hsound⟩ := exists_pop_of_at? hL hps hg.usable hfound
    have hone := countP_eraseIdx hk' hp
    obtain ⟨h, hrun⟩ := ih hsound hrest (by omega)
    exact ⟨h, .next hfound hp hrun⟩

end Emptying

end PhraseStructure.Grammar
