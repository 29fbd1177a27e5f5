import PhraseStructure.Proofs.Grammar.Texts

/-!
# Grammars that cannot be told apart

Grammars that store the same texts in the same order, under the same conventions (`Alike`), give the
same productions. Pushing and removing return the same for both and leave such grammars again
(`Alike.push`, `Alike.popGiven`), and so does every sequence of them (`Alike.runAll`). Which
brackets the stored symbols carry does not matter for this, as what is returned carries those of the
grammar.
-/

namespace PhraseStructure.Grammar

open Production

variable {g h : Grammar} {buckets buckets' : List Bucket} {head head' d d' : List Symbol}
  {heads heads' : List (List Symbol)} {n : Nat} {ps : List Production}

/-- Two grammars store the same texts in the same order, under the same conventions. -/
structure Alike (g h : Grammar) : Prop where
  conventions_eq : g.conventions = h.conventions
  bucketTexts_eq : g.buckets.map bucketTexts = h.buckets.map bucketTexts
  additionTexts_eq : g.additions.map texts = h.additions.map texts

/-- One call of an operation that adds or removes a production. -/
inductive Call
  | push (rule : Datum)
  | pop (index : Datum)

/-- What a call leaves and returns. -/
def Call.run (g : Grammar) : Call → Edited Production
  | push rule => g.push rule
  | pop index => g.popGiven index

/-- What calls return one after another, and the grammar that they leave. -/
def runAll (g : Grammar) : List Call → List (Except Fault Production) × Grammar
  | [] => ([], g)
  | call :: calls =>
      let later := (call.run g).grammar.runAll calls
      ((call.run g).result :: later.1, later.2)

section Texts

/-- The texts of two heads decide whether these are compared as the same. -/
theorem beq_congr_texts {other other' : List Symbol} (hhead : texts head = texts head')
    (hother : texts other = texts other') : (head == other) = (head' == other') := by
  rw [Bool.eq_iff_iff, Symbol.list_beq_iff, Symbol.list_beq_iff]
  exact iff_of_eq (congrArg₂ (· = ·) hhead hother)

/-- Erasing the same daughters leaves the same texts in buckets that held the same. -/
theorem map_bucketTexts_eraseFrom (hhead : texts head = texts head')
    (hbuckets : buckets.map bucketTexts = buckets'.map bucketTexts) :
    (eraseFrom head n buckets).map bucketTexts = (eraseFrom head' n buckets').map bucketTexts := by
  induction buckets generalizing buckets' with
  | nil =>
    obtain rfl : buckets' = [] := by simpa using hbuckets.symm
    rfl
  | cons bucket rest ih =>
    cases buckets' with
    | nil => simp at hbuckets
    | cons bucket' rest' =>
      obtain ⟨hfirst, hrest⟩ := List.cons.inj hbuckets
      obtain ⟨hkey, hds⟩ := Prod.mk.inj hfirst
      have hleft : (bucket.2.eraseIdx n).map texts = (bucket'.2.eraseIdx n).map texts := by
        rw [← List.eraseIdx_map, hds, List.eraseIdx_map]
      have hempty : (bucket.2.eraseIdx n).isEmpty = (bucket'.2.eraseIdx n).isEmpty := by
        rw [← List.isEmpty_map (f := texts), hleft, List.isEmpty_map]
      rw [eraseFrom, eraseFrom, beq_congr_texts hkey hhead, hempty]
      split
      · split
        · exact hrest
        · rw [List.map_cons, List.map_cons, hrest, bucketTexts, bucketTexts, hkey, hleft]
      · rw [List.map_cons, List.map_cons, hfirst, ih hrest]

/-- Forgetting the same occurrence of a head leaves the same texts in lists that held the same. -/
theorem map_texts_forget (hhead : texts head = texts head')
    (hheads : heads.map texts = heads'.map texts) :
    (forget head n heads).map texts = (forget head' n heads').map texts := by
  induction heads generalizing heads' n with
  | nil =>
    obtain rfl : heads' = [] := by simpa using hheads.symm
    rfl
  | cons key rest ih =>
    cases heads' with
    | nil => simp at hheads
    | cons key' rest' =>
      obtain ⟨hkey, hrest⟩ := List.cons.inj hheads
      have hsame : (key' == head') = (key == head) := (beq_congr_texts hkey hhead).symm
      by_cases hfound : (key == head) = true
      · cases n with
        | zero => simpa only [forget, hsame, hfound, if_true] using hrest
        | succ n =>
          simp only [forget, hsame, hfound, if_true]
          rw [List.map_cons, List.map_cons, hkey, ih hrest]
      · simp only [forget, hsame, hfound, Bool.false_eq_true, if_false]
        rw [List.map_cons, List.map_cons, hkey, ih hrest]

/-- Buckets with the same texts hold equally many productions. -/
theorem sizeIn_congr_texts (hbuckets : buckets.map bucketTexts = buckets'.map bucketTexts) :
    sizeIn buckets = sizeIn buckets' := by
  have hpairs : (pairsIn buckets).map pairTexts = (pairsIn buckets').map pairTexts := by
    rw [map_pairTexts_pairsIn, hbuckets, map_pairTexts_pairsIn]
  have hlength := congrArg List.length hpairs
  rwa [List.length_map, List.length_map, length_pairsIn, length_pairsIn] at hlength

/-- A place is found under a head with the same texts. -/
theorem locateIn_congr_texts (hbuckets : buckets.map bucketTexts = buckets'.map bucketTexts)
    (k : Nat) : (locateIn buckets k).map (Prod.map texts id) =
      (locateIn buckets' k).map (Prod.map texts id) := by
  induction buckets generalizing buckets' k with
  | nil =>
    obtain rfl : buckets' = [] := by simpa using hbuckets.symm
    rfl
  | cons bucket rest ih =>
    cases buckets' with
    | nil => simp at hbuckets
    | cons bucket' rest' =>
      obtain ⟨hfirst, hrest⟩ := List.cons.inj hbuckets
      obtain ⟨hkey, hds⟩ := Prod.mk.inj hfirst
      have hlength : bucket.2.length = bucket'.2.length := by
        rw [← List.length_map (f := texts), hds, List.length_map]
      rw [locateIn, locateIn, hlength]
      split
      · rw [Option.map_some, Option.map_some, Prod.map, Prod.map, hkey]
      · exact ih hrest _

/-- Whether there are enough productions in some buckets is a matter of their texts. -/
theorem reachesIn_congr_texts (hbuckets : buckets.map bucketTexts = buckets'.map bucketTexts)
    (x : Number) : reachesIn buckets x = reachesIn buckets' x := by
  induction buckets generalizing buckets' x with
  | nil =>
    obtain rfl : buckets' = [] := by simpa using hbuckets.symm
    rfl
  | cons bucket rest ih =>
    cases buckets' with
    | nil => simp at hbuckets
    | cons bucket' rest' =>
      obtain ⟨hfirst, hrest⟩ := List.cons.inj hbuckets
      obtain ⟨-, hds⟩ := Prod.mk.inj hfirst
      have hlength : bucket.2.length = bucket'.2.length := by
        rw [← List.length_map (f := texts), hds, List.length_map]
      rw [reachesIn, reachesIn, hlength, ih hrest]

/-- The same production is made of stored symbols with the same texts. -/
theorem rewrap_congr_texts (hhead : texts head = texts head') (hd : texts d = texts d')
    (brackets : Datum) : rewrap head d brackets = rewrap head' d' brackets := by
  have hmap : ∀ {xs ys : List Symbol}, texts xs = texts ys →
      ∀ b, xs.map (rebracketed · b) = ys.map (rebracketed · b) := by
    intro xs ys hsame b
    have hmk : ∀ zs : List Symbol,
        zs.map (rebracketed · b) = (texts zs).map (Symbol.mk · b) := by
      intro zs
      rw [texts, List.map_map]
      rfl
    rw [hmk, hsame, hmk]
  have hnil : head = [] ↔ head' = [] := by
    rw [← List.map_eq_nil_iff (f := Symbol.text), ← texts, hhead, texts, List.map_eq_nil_iff]
  by_cases hempty : head = []
  · rw [rewrap, rewrap, dif_neg (by simpa using hempty), dif_neg (by simpa using hnil.mp hempty)]
  · have hempty' : head' ≠ [] := fun h => hempty (hnil.mpr h)
    rw [rewrap, rewrap, dif_pos hempty, dif_pos hempty']
    simp only [hmap hhead, hmap hd]

/-- Grammars with the same texts in their buckets give the same productions. -/
theorem productions_congr_texts (hconventions : g.conventions = h.conventions)
    (hbuckets : g.buckets.map bucketTexts = h.buckets.map bucketTexts) :
    g.productions = h.productions := by
  have hpairs : g.pairs.map pairTexts = h.pairs.map pairTexts :=
    (map_pairTexts_pairsIn g.buckets).trans (hbuckets ▸ (map_pairTexts_pairsIn h.buckets).symm)
  rw [← List.forall₂_eq_eq_eq, List.forall₂_map_left_iff, List.forall₂_map_right_iff] at hpairs
  have hreadings : g.readings = h.readings := by
    rw [readings, readings, ← List.forall₂_eq_eq_eq, List.forall₂_map_left_iff,
      List.forall₂_map_right_iff]
    refine hpairs.imp fun e e' hsame => ?_
    obtain ⟨hhead, hd⟩ := Sides.mk.inj hsame
    rw [← hconventions]
    exact rewrap_congr_texts hhead hd g.conventions.brackets
  rw [productions, productions, hreadings]

end Texts

namespace Alike

variable (halike : Alike g h)

include halike

/-- The start symbols do not matter for being alike. -/
theorem withStart (s t : Option Symbol) : Alike { g with start := s } { h with start := t } :=
  ⟨halike.conventions_eq, halike.bucketTexts_eq, halike.additionTexts_eq⟩

/-- Both give the same productions. -/
theorem productions_eq : g.productions = h.productions :=
  productions_congr_texts halike.conventions_eq halike.bucketTexts_eq

/-- Grammars that are alike have equally many productions. -/
theorem size_eq : g.size = h.size := sizeIn_congr_texts halike.bucketTexts_eq

/-- An index is found under heads with the same texts. -/
theorem locate_eq (i : Int) :
    (g.locate i).map (Prod.map texts id) = (h.locate i).map (Prod.map texts id) := by
  have hplace : ∀ j : Int,
      (if j < 0 then none else locateIn g.buckets j.toNat).map (Prod.map texts id) =
        (if j < 0 then none else locateIn h.buckets j.toNat).map (Prod.map texts id) := by
    intro j
    split
    · rfl
    · exact locateIn_congr_texts halike.bucketTexts_eq _
  rw [locate, locate, halike.size_eq]
  exact hplace _

/-- A value is the same index of grammars that are alike. -/
theorem readIndex_eq (given : Datum) : g.readIndex given = h.readIndex given := by
  have hreaches : ∀ x, g.reaches x = h.reaches x := by
    intro x
    rw [reaches, reaches, halike.size_eq]
    simp only [reachesIn_congr_texts halike.bucketTexts_eq]
  rw [readIndex, readIndex]
  simp only [hreaches]

/-- What is found under a head has the same texts. -/
theorem map_texts_daughtersOf (hhead : texts head = texts head') :
    (g.daughtersOf head).map texts = (h.daughtersOf head').map texts := by
  have hsame : (head == head') = true := Symbol.list_beq_iff.mpr hhead
  rw [daughtersOf, daughtersOf, lookup_congr hsame, map_texts_lookup halike.bucketTexts_eq]

/-- Grammars that are alike stay so when the same production is added to both. -/
theorem add (p : Production) : Alike (g.add p) (h.add p) where
  conventions_eq := halike.conventions_eq
  bucketTexts_eq := map_bucketTexts_addTo rfl rfl halike.bucketTexts_eq
  additionTexts_eq := by
    rw [Grammar.add, List.map_append, halike.additionTexts_eq, ← List.map_append]
    rfl

/-- Grammars that are alike stay so when the same production is erased from both. -/
theorem erase (hhead : texts head = texts head') (n : Nat) :
    Alike (g.erase head n) (h.erase head' n) where
  conventions_eq := halike.conventions_eq
  bucketTexts_eq := map_bucketTexts_eraseFrom hhead halike.bucketTexts_eq
  additionTexts_eq := map_texts_forget hhead halike.additionTexts_eq

omit halike in
/-- A production that is removed is the same for both, as long as a start symbol is always found. -/
theorem removeAt (halike : Alike g h) (hg : [] ∉ g.additions) (hh : [] ∉ h.additions)
    (hhead : texts head = texts head') (n : Nat) :
    (g.removeAt head n).result = (h.removeAt head' n).result ∧
      Alike (g.removeAt head n).grammar (h.removeAt head' n).grammar := by
  have hfound : ((g.daughtersOf head)[n]?).map texts = ((h.daughtersOf head')[n]?).map texts := by
    rw [← List.getElem?_map, halike.map_texts_daughtersOf hhead, List.getElem?_map]
  cases hd : (g.daughtersOf head)[n]? with
  | none =>
    rw [hd, Option.map_none, eq_comm, Option.map_eq_none_iff] at hfound
    simp only [Grammar.removeAt, hd, hfound]
    exact ⟨trivial, halike⟩
  | some d =>
    rw [hd, Option.map_some, eq_comm, Option.map_eq_some_iff] at hfound
    obtain ⟨d', hd', hsame⟩ := hfound
    obtain ⟨s, hs⟩ := exists_inheritStart (g := g.erase head n)
      (fun hnil => hg (forget_subset head n _ hnil)) g.start
    obtain ⟨t, ht⟩ := exists_inheritStart (g := h.erase head' n)
      (fun hnil => hh (forget_subset head' n _ hnil)) h.start
    have hread := rewrap_congr_texts hhead hsame.symm g.conventions.brackets
    have herased := (halike.erase hhead n).withStart s t
    simp only [Grammar.removeAt, hd, hd', hs, ht, ← halike.conventions_eq, hread]
    split
    · exact ⟨rfl, herased⟩
    · exact ⟨rfl, herased⟩

/-- Popping returns the same production and leaves grammars that are alike. -/
theorem pop (hg : [] ∉ g.additions) (hh : [] ∉ h.additions) (index : Option Int) :
    (g.pop index).result = (h.pop index).result ∧
      Alike (g.pop index).grammar (h.pop index).grammar := by
  cases index with
  | none =>
    have hlast : g.additions.getLast?.map texts = h.additions.getLast?.map texts := by
      rw [← List.getLast?_map, halike.additionTexts_eq, List.getLast?_map]
    cases hfound : g.additions.getLast? with
    | none =>
      rw [hfound, Option.map_none, eq_comm, Option.map_eq_none_iff] at hlast
      simp only [Grammar.pop, hfound, hlast]
      exact ⟨trivial, halike⟩
    | some head =>
      rw [hfound, Option.map_some, eq_comm, Option.map_eq_some_iff] at hlast
      obtain ⟨head', hfound', hsame⟩ := hlast
      have hlength : (g.daughtersOf head).length = (h.daughtersOf head').length := by
        rw [← List.length_map (f := texts), halike.map_texts_daughtersOf hsame.symm,
          List.length_map]
      simp only [Grammar.pop, hfound, hfound', hlength]
      exact halike.removeAt hg hh hsame.symm _
  | some i =>
    have hlocate := halike.locate_eq i
    cases hfound : g.locate i with
    | none =>
      rw [hfound, Option.map_none, eq_comm, Option.map_eq_none_iff] at hlocate
      simp only [Grammar.pop, hfound, hlocate]
      exact ⟨trivial, halike⟩
    | some place =>
      rw [hfound, Option.map_some, eq_comm, Option.map_eq_some_iff] at hlocate
      obtain ⟨place', hfound', hsame⟩ := hlocate
      obtain ⟨hhead, hn⟩ := Prod.mk.inj hsame
      simp only [Grammar.pop, hfound, hfound']
      rw [show place'.2 = place.2 from hn]
      exact halike.removeAt hg hh hhead.symm _

/-- A removal returns the same for both, also where nothing is at the index that is given. -/
theorem popGiven (hg : [] ∉ g.additions) (hh : [] ∉ h.additions) (index : Datum) :
    (g.popGiven index).result = (h.popGiven index).result ∧
      Alike (g.popGiven index).grammar (h.popGiven index).grammar := by
  unfold Grammar.popGiven
  split
  · exact halike.pop hg hh none
  · rw [halike.readIndex_eq]
    split
    · exact halike.pop hg hh _
    · exact ⟨rfl, halike⟩
    · exact ⟨rfl, halike⟩

/-- A rule is read in the same way for both. -/
theorem push (rule : Datum) : (g.push rule).result = (h.push rule).result ∧
    Alike (g.push rule).grammar (h.push rule).grammar := by
  have hread : g.readRule rule = h.readRule rule := by
    rw [readRule, readRule, halike.conventions_eq]
  unfold Grammar.push
  rw [hread]
  split
  · exact ⟨rfl, halike.add _⟩
  · exact ⟨rfl, halike⟩

/-- A call returns the same from grammars that are alike, and leaves grammars that are alike. -/
theorem run (hg : g.IsSound) (hh : h.IsSound) (call : Call) :
    (call.run g).result = (call.run h).result ∧
      Alike (call.run g).grammar (call.run h).grammar := by
  cases call with
  | push rule => exact halike.push rule
  | pop index => exact halike.popGiven hg.usable.heads_ne_nil hh.usable.heads_ne_nil index

end Alike

/-- A call keeps a grammar sound. -/
theorem IsSound.run (hg : g.IsSound) (call : Call) : (call.run g).grammar.IsSound := by
  cases call with
  | push rule => exact (Step.push g rule).isSound hg
  | pop index => exact (Step.pop g index).isSound hg

/-- All calls return the same for both, and leave grammars that store the same again. -/
theorem Alike.runAll (halike : Alike g h) (hg : g.IsSound) (hh : h.IsSound) (calls : List Call) :
    (g.runAll calls).1 = (h.runAll calls).1 ∧ Alike (g.runAll calls).2 (h.runAll calls).2 ∧
      (g.runAll calls).2.IsSound ∧ (h.runAll calls).2.IsSound := by
  induction calls generalizing g h with
  | nil => exact ⟨rfl, halike, hg, hh⟩
  | cons call calls ih =>
    obtain ⟨hresult, hleft⟩ := halike.run hg hh call
    obtain ⟨hresults, hlast⟩ := ih hleft (hg.run call) (hh.run call)
    exact ⟨congrArg₂ List.cons hresult hresults, hlast⟩

/-- Grammars that cannot be told apart are equal. -/
theorem Alike.equal (halike : Alike g h) (hg : g.IsSound) (hh : h.IsSound) : g.equal h = true := by
  obtain ⟨L, hL⟩ := hg.represents
  obtain ⟨L', hL'⟩ := hh.represents
  exact hL.equal_of_bucketTexts hL' halike.bucketTexts_eq

end PhraseStructure.Grammar
