import Mathlib.Tactic.Tauto
import PhraseStructure.Grammar.Edit

/-!
# Buckets

A bucket holds the daughters of the productions with one head. Heads are compared by the texts of
their symbols, and in a grammar no two buckets have the same head (`HeadsDiffer`). What is found
under a head after something was added (`lookup_addTo`) or removed (`lookup_eraseFrom`) is said in
terms of what was found there before. An index counts through the buckets one after another
(`locateIn_eq_some`).
-/

namespace PhraseStructure.Grammar

/-- No two buckets have the same head. -/
def HeadsDiffer (buckets : List Bucket) : Prop :=
  (buckets.map Prod.fst).Pairwise fun head other => (head == other) = false

/-- Every bucket holds something. -/
def NoneEmpty (buckets : List Bucket) : Prop := ∀ bucket ∈ buckets, bucket.2 ≠ []

/-- Some bucket has the head. -/
def HasHead (buckets : List Bucket) (head : List Symbol) : Prop :=
  ∃ bucket ∈ buckets, (bucket.1 == head) = true

/-- The productions in some buckets as pairs of head and daughters. -/
def pairsIn (buckets : List Bucket) : List (List Symbol × List Symbol) :=
  buckets.flatMap fun (h, ds) => ds.map (h, ·)

variable {buckets : List Bucket} {bucket : Bucket} {head other : List Symbol}
  {more : List (List Symbol)} {n : Nat}

/-- Without buckets there is no head. -/
@[simp] theorem hasHead_nil : ¬HasHead [] head := by simp [HasHead]

/-- A head is that of the first bucket or of a later one. -/
@[simp] theorem hasHead_cons :
    HasHead (bucket :: buckets) head ↔ (bucket.1 == head) = true ∨ HasHead buckets head := by
  simp [HasHead]

/-- Without buckets no head occurs twice. -/
@[simp] theorem headsDiffer_nil : HeadsDiffer [] := .nil

/-- The head of the first bucket occurs in no later one, and those of the later ones differ. -/
@[simp] theorem headsDiffer_cons :
    HeadsDiffer (bucket :: buckets) ↔ ¬HasHead buckets bucket.1 ∧ HeadsDiffer buckets := by
  have hsymm : ∀ b ∈ buckets, (b.1 == bucket.1) = false ↔ (bucket.1 == b.1) = false := by
    intro b _
    rw [BEq.comm]
  simp only [HeadsDiffer, List.map_cons, List.pairwise_cons, HasHead, not_exists, not_and,
    Bool.not_eq_true, List.mem_map]
  constructor
  · rintro ⟨hfirst, hrest⟩
    exact ⟨fun b hb => (hsymm b hb).mpr (hfirst b.1 ⟨b, hb, rfl⟩), hrest⟩
  · rintro ⟨hfirst, hrest⟩
    exact ⟨fun _ ⟨b, hb, heq⟩ => heq ▸ (hsymm b hb).mp (hfirst b hb), hrest⟩

/-- Equal heads are heads of the same buckets. -/
theorem hasHead_congr (h : (head == other) = true) :
    HasHead buckets head ↔ HasHead buckets other := by
  have hcongr : ∀ b : Bucket, (b.1 == head) = (b.1 == other) := fun b => BEq.congr_right h
  simp [HasHead, hcongr]

/-- Heads that compare differently with a third one differ. -/
theorem beq_eq_false_of_beq {key : List Symbol} (hhead : ¬(key == head) = true)
    (hother : (key == other) = true) : (head == other) = false := by
  rw [← BEq.congr_right hother, BEq.comm]
  simpa using hhead

/-- Nothing is found under a head that no bucket has. -/
theorem lookup_of_not_hasHead (h : ¬HasHead buckets head) : lookup head buckets = [] := by
  induction buckets with
  | nil => rfl
  | cons bucket rest ih =>
    rw [hasHead_cons, not_or] at h
    simp [lookup, h.1, ih h.2]

/-- Equal heads have the same daughters. -/
theorem lookup_congr (hsame : (head == other) = true) (buckets : List Bucket) :
    lookup head buckets = lookup other buckets := by
  induction buckets with
  | nil => rfl
  | cons bucket buckets ih =>
    have hcongr : (bucket.1 == head) = (bucket.1 == other) := BEq.congr_right hsame
    rw [lookup, lookup, hcongr, ih]

/-- The daughters in a bucket are found under its head. -/
theorem lookup_of_mem (h : HeadsDiffer buckets) (hmem : bucket ∈ buckets) :
    lookup bucket.1 buckets = bucket.2 := by
  induction buckets with
  | nil => simp at hmem
  | cons first rest ih =>
    obtain ⟨hfirst, hrest⟩ := headsDiffer_cons.mp h
    rcases List.mem_cons.mp hmem with rfl | hmem
    · rw [lookup, if_pos BEq.rfl]
    · have hne : ¬(first.1 == bucket.1) = true :=
        fun hsame => hfirst ⟨bucket, hmem, BEq.symm hsame⟩
      rw [lookup, if_neg hne, ih hrest hmem]

/-- Something is found under every head that a bucket has. -/
theorem NoneEmpty.lookup_ne_nil (hne : NoneEmpty buckets) (h : HasHead buckets head) :
    lookup head buckets ≠ [] := by
  induction buckets with
  | nil => exact absurd h hasHead_nil
  | cons bucket rest ih =>
    rw [NoneEmpty, List.forall_mem_cons] at hne
    by_cases hhead : (bucket.1 == head) = true
    · simpa [lookup, hhead] using hne.1
    · rw [hasHead_cons] at h
      simpa [lookup, hhead] using ih hne.2 (h.resolve_left hhead)

section Adding

/-- After something is added under a head, this head is there as well. -/
theorem hasHead_addTo :
    HasHead (addTo head more buckets) other ↔ HasHead buckets other ∨ (head == other) = true := by
  induction buckets with
  | nil => simp [addTo]
  | cons bucket rest ih =>
    by_cases h : (bucket.1 == head) = true
    · have hcongr : (bucket.1 == other) = (head == other) := BEq.congr_left h
      simp only [addTo, h, if_true, hasHead_cons, hcongr]
      tauto
    · simp only [addTo, h, Bool.false_eq_true, if_false, hasHead_cons, ih]
      tauto

/-- Adding to the bucket of a head, or behind all buckets, brings no head twice. -/
theorem HeadsDiffer.addTo (h : HeadsDiffer buckets) : HeadsDiffer (addTo head more buckets) := by
  induction buckets with
  | nil => simp [Grammar.addTo]
  | cons bucket rest ih =>
    obtain ⟨hfirst, hrest⟩ := headsDiffer_cons.mp h
    by_cases hhead : (bucket.1 == head) = true
    · simp [Grammar.addTo, hhead, hfirst, hrest]
    · simp only [Grammar.addTo, hhead, Bool.false_eq_true, if_false, headsDiffer_cons,
        hasHead_addTo, not_or]
      exact ⟨⟨hfirst, by rwa [BEq.comm]⟩, ih hrest⟩

/-- No bucket is empty after something is added. -/
theorem NoneEmpty.addTo (h : NoneEmpty buckets) (hmore : more ≠ []) :
    NoneEmpty (addTo head more buckets) := by
  induction buckets with
  | nil => simpa [Grammar.addTo, NoneEmpty] using hmore
  | cons bucket rest ih =>
    rw [NoneEmpty, List.forall_mem_cons] at h
    rw [Grammar.addTo]
    split
    · exact List.forall_mem_cons.mpr ⟨by simp [h.1], h.2⟩
    · exact List.forall_mem_cons.mpr ⟨h.1, ih h.2⟩

/-- Adding daughters under a head puts them behind those found there, and nothing else changes. -/
theorem lookup_addTo : lookup other (addTo head more buckets) =
    lookup other buckets ++ if head == other then more else [] := by
  induction buckets with
  | nil => simp [addTo, lookup]
  | cons bucket rest ih =>
    by_cases hhead : (bucket.1 == head) = true
    · have hcongr : (bucket.1 == other) = (head == other) := BEq.congr_left hhead
      simp only [addTo, hhead, if_true, lookup, hcongr]
      split <;> simp
    · simp only [addTo, hhead, Bool.false_eq_true, if_false, lookup, ih]
      by_cases hother : (bucket.1 == other) = true
      · simp [hother, beq_eq_false_of_beq hhead hother]
      · simp [hother]

/-- Daughters under a head that is in use go into a bucket that is there. -/
theorem map_fst_addTo (h : HasHead buckets head) :
    (addTo head more buckets).map Prod.fst = buckets.map Prod.fst := by
  induction buckets with
  | nil => exact absurd h hasHead_nil
  | cons bucket rest ih =>
    by_cases hhead : (bucket.1 == head) = true
    · rw [addTo, if_pos hhead, List.map_cons, List.map_cons]
    · have hrest : HasHead rest head := (hasHead_cons.mp h).resolve_left hhead
      rw [addTo, if_neg hhead, List.map_cons, List.map_cons, ih hrest]

end Adding

section Removing

/-- Removing daughters adds no head. -/
theorem hasHead_of_eraseFrom (h : HasHead (eraseFrom head n buckets) other) :
    HasHead buckets other := by
  induction buckets with
  | nil => exact h
  | cons bucket rest ih =>
    rw [eraseFrom] at h
    rw [hasHead_cons]
    split at h
    · split at h
      · exact .inr h
      · rw [hasHead_cons] at h
        exact h
    · rcases hasHead_cons.mp h with hfirst | hrest
      · exact .inl hfirst
      · exact .inr (ih hrest)

/-- Heads that differ still do so after daughters are erased. -/
theorem HeadsDiffer.eraseFrom (h : HeadsDiffer buckets) :
    HeadsDiffer (eraseFrom head n buckets) := by
  induction buckets with
  | nil => exact h
  | cons bucket rest ih =>
    obtain ⟨hfirst, hrest⟩ := headsDiffer_cons.mp h
    by_cases hhead : (bucket.1 == head) = true
    · simp only [Grammar.eraseFrom, hhead, if_true]
      split
      · exact hrest
      · exact headsDiffer_cons.mpr ⟨hfirst, hrest⟩
    · simp only [Grammar.eraseFrom, hhead, Bool.false_eq_true, if_false, headsDiffer_cons]
      exact ⟨fun hmem => hfirst (hasHead_of_eraseFrom hmem), ih hrest⟩

/-- A bucket from which the last daughters are erased is removed, so that none is empty. -/
theorem NoneEmpty.eraseFrom (h : NoneEmpty buckets) : NoneEmpty (eraseFrom head n buckets) := by
  induction buckets with
  | nil => exact h
  | cons bucket rest ih =>
    rw [NoneEmpty, List.forall_mem_cons] at h
    rw [Grammar.eraseFrom]
    split
    · split
      · exact h.2
      · next hleft => exact List.forall_mem_cons.mpr ⟨by simpa using hleft, h.2⟩
    · exact List.forall_mem_cons.mpr ⟨h.1, ih h.2⟩

/-- Removing daughters under a head changes nothing under other heads. -/
theorem lookup_eraseFrom (h : HeadsDiffer buckets) : lookup other (eraseFrom head n buckets) =
    if head == other then (lookup other buckets).eraseIdx n else lookup other buckets := by
  induction buckets with
  | nil => simp [eraseFrom, lookup]
  | cons bucket rest ih =>
    obtain ⟨hfirst, hrest⟩ := headsDiffer_cons.mp h
    by_cases hhead : (bucket.1 == head) = true
    · have hcongr : (bucket.1 == other) = (head == other) := BEq.congr_left hhead
      simp only [eraseFrom, hhead, if_true, lookup, hcongr]
      split
      · next hempty =>
        rw [List.isEmpty_iff] at hempty
        split
        · next hother =>
          rw [hempty]
          refine lookup_of_not_hasHead ?_
          rwa [← hasHead_congr hother, ← hasHead_congr hhead]
        · rfl
      · simp only [lookup, hcongr]
        split <;> rfl
    · simp only [eraseFrom, hhead, Bool.false_eq_true, if_false, lookup, ih hrest]
      by_cases hother : (bucket.1 == other) = true
      · simp [hother, beq_eq_false_of_beq hhead hother]
      · simp [hother]

end Removing

section Counting

/-- There are as many pairs as productions. -/
theorem length_pairsIn (buckets : List Bucket) : (pairsIn buckets).length = sizeIn buckets := by
  induction buckets with
  | nil => rfl
  | cons bucket rest ih =>
    rw [sizeIn, ← ih]
    simp [pairsIn]

/-- Each of the daughters that are added makes one more production. -/
theorem sizeIn_addTo : sizeIn (addTo head more buckets) = sizeIn buckets + more.length := by
  induction buckets with
  | nil => simp [addTo, sizeIn]
  | cons bucket rest ih =>
    rw [addTo]
    split
    · simp only [sizeIn, List.length_append]
      omega
    · simp only [sizeIn, ih]
      omega

/-- Of the pairs with one head, all or none have a certain head. -/
theorem filter_map_pair (head : List Symbol) (ds : List (List Symbol)) :
    ((ds.map (head, ·)).filter (·.1 == other)).map Prod.snd = if head == other then ds else [] := by
  by_cases hhead : (head == other) = true
  · rw [if_pos hhead, List.filter_eq_self.mpr]
    · simp [Function.comp_def]
    · intro e he
      obtain ⟨d, -, rfl⟩ := List.mem_map.mp he
      exact hhead
  · rw [if_neg hhead, List.filter_eq_nil_iff.mpr, List.map_nil]
    intro e he
    obtain ⟨d, -, rfl⟩ := List.mem_map.mp he
    exact hhead

/-- The pairs with a head hold the daughters that are found under it. -/
theorem filter_pairsIn (h : HeadsDiffer buckets) :
    ((pairsIn buckets).filter (·.1 == head)).map Prod.snd = lookup head buckets := by
  induction buckets with
  | nil => rfl
  | cons bucket rest ih =>
    obtain ⟨first, ds⟩ := bucket
    obtain ⟨hfirst, hrest⟩ := headsDiffer_cons.mp h
    have hsplit : pairsIn ((first, ds) :: rest) = ds.map (first, ·) ++ pairsIn rest := rfl
    rw [hsplit, List.filter_append, List.map_append, filter_map_pair, ih hrest, lookup]
    by_cases hhead : (first == head) = true
    · have hnone : ¬HasHead rest head := fun hmem => hfirst ((hasHead_congr hhead).mpr hmem)
      rw [if_pos hhead, if_pos hhead, lookup_of_not_hasHead hnone, List.append_nil]
    · rw [if_neg hhead, if_neg hhead, List.nil_append]

/-- The head of a production is that of a bucket. -/
theorem hasHead_of_mem_pairsIn {d : List Symbol} (h : (head, d) ∈ pairsIn buckets) :
    HasHead buckets head := by
  obtain ⟨bucket, hbucket, hpair⟩ := List.mem_flatMap.mp h
  obtain ⟨d', -, heq⟩ := List.mem_map.mp hpair
  obtain ⟨rfl, -⟩ := Prod.mk.inj heq
  exact ⟨bucket, hbucket, BEq.rfl⟩

/-- A production is found in the bucket with its head, behind as many others as there are
productions with this head before it. -/
theorem locateIn_eq_some (h : HeadsDiffer buckets) {k : Nat} {d : List Symbol}
    (hpair : (pairsIn buckets)[k]? = some (head, d))
    (hn : ((pairsIn buckets).take k).countP (·.1 == head) = n) :
    locateIn buckets k = some (head, n) ∧ (lookup head buckets)[n]? = some d := by
  induction buckets generalizing k with
  | nil => simp [pairsIn] at hpair
  | cons bucket rest ih =>
    obtain ⟨first, ds⟩ := bucket
    obtain ⟨hfirst, hrest⟩ := headsDiffer_cons.mp h
    have hsplit : pairsIn ((first, ds) :: rest) = ds.map (first, ·) ++ pairsIn rest := rfl
    rw [hsplit] at hpair hn
    rw [locateIn, lookup]
    by_cases hk : k < ds.length
    · rw [List.getElem?_append_left (by simpa using hk), List.getElem?_map,
        List.getElem?_eq_getElem hk] at hpair
      obtain ⟨rfl, rfl⟩ : first = head ∧ ds[k] = d := by simpa using hpair
      have hall : ∀ pair ∈ (ds.map (first, ·)).take k, (pair.1 == first) = true := by
        intro pair hmem
        obtain ⟨d', -, rfl⟩ := List.mem_map.mp (List.mem_of_mem_take hmem)
        exact BEq.rfl
      rw [List.take_append_of_le_length (by simpa using Nat.le_of_lt hk),
        List.countP_eq_length.mpr hall] at hn
      obtain rfl : k = n := by simpa [Nat.le_of_lt hk] using hn
      rw [if_pos hk, if_pos BEq.rfl]
      exact ⟨rfl, List.getElem?_eq_getElem hk⟩
    · rw [List.getElem?_append_right (by simpa using hk), List.length_map] at hpair
      have hne : (first == head) = false := by
        rw [BEq.comm, ← Bool.not_eq_true]
        intro heq
        have hmem := hasHead_of_mem_pairsIn (List.mem_of_getElem? hpair)
        exact hfirst ((hasHead_congr heq).mp hmem)
      have hnone : (ds.map (first, ·)).countP (·.1 == head) = 0 := by
        rw [List.countP_eq_zero]
        intro pair hmem
        obtain ⟨d', -, rfl⟩ := List.mem_map.mp hmem
        simp [hne]
      have htake : (ds.map (first, ·)).take k = ds.map (first, ·) :=
        List.take_of_length_le (by simpa using hk)
      rw [List.take_append, List.countP_append, htake, hnone, Nat.zero_add, List.length_map] at hn
      rw [if_neg hk, hne]
      exact ih hrest hpair hn

end Counting

end PhraseStructure.Grammar
