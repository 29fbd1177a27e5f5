import PhraseStructure.Proofs.Grammar.Start
import PhraseStructure.Proofs.Production.Reprint

/-!
# Adding the productions of a grammar again

The iteration over a grammar goes through its buckets, so that it need not give the productions in
the order in which they were added. Productions that are added in the order of an iteration fill the
same buckets again (`addPairs_pairsIn`), and the first bucket has the head that was added first
(`head?_addAll`). What an iteration gives are the productions that were added, as long as all heads
carry one pair of brackets (`mem_pairsIn_addAll`).
-/

namespace PhraseStructure.Grammar

variable {g h : Grammar} {buckets front : List Bucket} {head d : List Symbol}
  {ds more : List (List Symbol)} {e : List Symbol × List Symbol} {b : Brackets}
  {ps : List Production}

/-- The productions of the first bucket come before those of the others. -/
theorem pairsIn_cons (bucket : Bucket) (buckets : List Bucket) :
    pairsIn (bucket :: buckets) = bucket.2.map (bucket.1, ·) ++ pairsIn buckets := rfl

section Filling

/-- A head that is new comes last. -/
theorem addTo_of_not_hasHead (h : ¬HasHead buckets head) :
    addTo head more buckets = buckets ++ [(head, more)] := by
  induction buckets with
  | nil => rfl
  | cons bucket rest ih =>
    rw [hasHead_cons, not_or] at h
    rw [addTo, if_neg h.1, ih h.2, List.cons_append]

/-- Further daughters go into the last bucket while its head is the one that is added. -/
theorem addTo_concat (h : ¬HasHead front head) :
    addTo head more (front ++ [(head, ds)]) = front ++ [(head, ds ++ more)] := by
  induction front with
  | nil => rw [List.nil_append, addTo, if_pos BEq.rfl, List.nil_append]
  | cons bucket rest ih =>
    rw [hasHead_cons, not_or] at h
    rw [List.cons_append, addTo, if_neg h.1, ih h.2, List.cons_append]

/-- The buckets with further pairs of head and daughters, one after another. -/
def addPairs (pairs : List (List Symbol × List Symbol)) (buckets : List Bucket) : List Bucket :=
  pairs.foldl (fun acc e => addTo e.1 [e.2] acc) buckets

/-- Pairs are filled in one after another. -/
theorem addPairs_append (xs ys : List (List Symbol × List Symbol)) :
    addPairs (xs ++ ys) buckets = addPairs ys (addPairs xs buckets) :=
  List.foldl_append

/-- The daughters of one bucket go into one bucket again. -/
theorem addPairs_bucket (h : ¬HasHead front head) (hne : ds ≠ []) :
    addPairs (ds.map (head, ·)) front = front ++ [(head, ds)] := by
  have hmore : ∀ ds first, addPairs (ds.map (head, ·)) (front ++ [(head, first)]) =
      front ++ [(head, first ++ ds)] := by
    intro ds
    induction ds with
    | nil => simp [addPairs]
    | cons d ds ih =>
      intro first
      have hrest := ih (first ++ [d])
      rw [addPairs] at hrest ⊢
      rw [List.map_cons, List.foldl_cons, addTo_concat h, hrest, List.append_assoc]
      rfl
  obtain ⟨d, rest, rfl⟩ := List.exists_cons_of_ne_nil hne
  have hrest := hmore rest [d]
  rw [addPairs] at hrest ⊢
  rw [List.map_cons, List.foldl_cons, addTo_of_not_hasHead h, hrest]
  rfl

/-- The pairs of some buckets fill these buckets again, behind others with other heads. -/
theorem addPairs_pairsIn (hdiffer : HeadsDiffer buckets) (hne : NoneEmpty buckets)
    (hfront : ∀ bucket ∈ buckets, ¬HasHead front bucket.1) :
    addPairs (pairsIn buckets) front = front ++ buckets := by
  induction buckets generalizing front with
  | nil => simp [pairsIn, addPairs]
  | cons bucket rest ih =>
    obtain ⟨head, ds⟩ := bucket
    obtain ⟨hfirst, hrest⟩ := headsDiffer_cons.mp hdiffer
    rw [NoneEmpty, List.forall_mem_cons] at hne
    rw [List.forall_mem_cons] at hfront
    have hnew : ∀ bucket ∈ rest, ¬HasHead (front ++ [(head, ds)]) bucket.1 := by
      rintro bucket hbucket ⟨other, hother, hsame⟩
      rcases List.mem_append.mp hother with hmem | hmem
      · exact hfront.2 bucket hbucket ⟨other, hmem, hsame⟩
      · obtain rfl := List.mem_singleton.mp hmem
        exact hfirst ⟨bucket, hbucket, BEq.symm hsame⟩
    rw [pairsIn_cons, addPairs_append, addPairs_bucket hfront.1 hne.1, ih hrest hne.2 hnew,
      List.append_assoc, List.singleton_append]

/-- Productions are filled into the buckets as pairs of head and daughters. -/
theorem addAll_buckets (ps : List Production) :
    (g.addAll ps).buckets = addPairs (ps.map Production.sides) g.buckets := by
  induction ps generalizing g with
  | nil => rfl
  | cons p ps ih => exact ih

/-- Each production that is added counts. -/
theorem size_addAll (ps : List Production) : (g.addAll ps).size = g.size + ps.length := by
  induction ps generalizing g with
  | nil => rfl
  | cons p ps ih =>
    have hadd : (g.add p).size = g.size + 1 := sizeIn_addTo
    rw [addAll_cons, ih, hadd, List.length_cons]
    omega

/-- The daughters of a bucket whose head is in use bring no new head. -/
theorem map_fst_addPairs_bucket (h : HasHead front head) (ds : List (List Symbol)) :
    (addPairs (ds.map (head, ·)) front).map Prod.fst = front.map Prod.fst := by
  induction ds generalizing front with
  | nil => rfl
  | cons d ds ih =>
    have hstill : HasHead (addTo head [d] front) head := hasHead_addTo.mpr (.inl h)
    have hrest := ih hstill
    rw [addPairs] at hrest ⊢
    rw [List.map_cons, List.foldl_cons, hrest, map_fst_addTo h]

/-- A head is looked for among those of the buckets. -/
theorem contains_map_fst : (buckets.map Prod.fst).contains head = true ↔ HasHead buckets head := by
  rw [List.contains_iff_exists_mem_beq, HasHead]
  constructor
  · rintro ⟨_, hmem, hsame⟩
    obtain ⟨bucket, hbucket, rfl⟩ := List.mem_map.mp hmem
    exact ⟨bucket, hbucket, BEq.symm hsame⟩
  · rintro ⟨bucket, hbucket, hsame⟩
    exact ⟨_, List.mem_map_of_mem hbucket, BEq.symm hsame⟩

/-- The pairs of some buckets bring those heads that are not there, in the order of the buckets. -/
theorem map_fst_addPairs (hdiffer : HeadsDiffer buckets) (hne : NoneEmpty buckets) :
    (addPairs (pairsIn buckets) front).map Prod.fst =
      front.map Prod.fst ++
        (buckets.map Prod.fst).filter fun head => !(front.map Prod.fst).contains head := by
  induction buckets generalizing front with
  | nil => simp [pairsIn, addPairs]
  | cons bucket rest ih =>
    obtain ⟨head, ds⟩ := bucket
    obtain ⟨hfirst, hrest⟩ := headsDiffer_cons.mp hdiffer
    rw [NoneEmpty, List.forall_mem_cons] at hne
    rw [pairsIn_cons, addPairs_append, ih hrest hne.2, List.map_cons, List.filter_cons]
    by_cases hhead : HasHead front head
    · have hfound : (front.map Prod.fst).contains head = true := contains_map_fst.mpr hhead
      rw [map_fst_addPairs_bucket hhead, hfound]
      simp
    · have hmissing : (front.map Prod.fst).contains head = false := by
        rw [← Bool.not_eq_true, contains_map_fst]
        exact hhead
      -- The new head is not among those that are still to come.
      have hkeep : (rest.map Prod.fst).filter (fun other =>
            !((front ++ [(head, ds)]).map Prod.fst).contains other) =
          (rest.map Prod.fst).filter fun other => !(front.map Prod.fst).contains other := by
        refine List.filter_congr (List.forall_mem_map.mpr fun other hother => ?_)
        have hdiffers : (other.1 == head) = false := by
          rw [← Bool.not_eq_true]
          exact fun hsame => hfirst ⟨other, hother, hsame⟩
        rw [List.map_append, List.contains_append, List.map_singleton, List.contains_cons, hdiffers]
        simp
      rw [addPairs_bucket hhead hne.1, hkeep, hmissing]
      simp

end Filling

section Iterating

/-- Where equal heads are the same, nothing is added but the production. -/
theorem mem_pairsIn_of_addTo
    (hsame : ∀ bucket ∈ buckets, (bucket.1 == head) = true → bucket.1 = head)
    (h : e ∈ pairsIn (addTo head [d] buckets)) : e ∈ pairsIn buckets ∨ e = (head, d) := by
  induction buckets with
  | nil => exact .inr (by simpa [addTo, pairsIn] using h)
  | cons bucket rest ih =>
    rw [List.forall_mem_cons] at hsame
    rw [pairsIn_cons, List.mem_append]
    rw [addTo] at h
    split at h
    · next hhead =>
      rw [pairsIn_cons, List.map_append, List.append_assoc, List.mem_append, List.mem_append] at h
      rcases h with hold | hnew | hrest
      · exact .inl (.inl hold)
      · exact .inr (by simpa [hsame.1 hhead] using hnew)
      · exact .inl (.inr hrest)
    · rw [pairsIn_cons, List.mem_append] at h
      rcases h with hold | hrest
      · exact .inl (.inl hold)
      · exact (ih hsame.2 hrest).imp_left .inr

/-- After something is added under a head, the bucket of this head is the only new one there may
be. -/
theorem exists_of_mem_addTo {bucket : Bucket} (h : bucket ∈ addTo head more buckets) :
    bucket.1 = head ∨ ∃ other ∈ buckets, other.1 = bucket.1 := by
  induction buckets with
  | nil => exact .inl (by rw [List.mem_singleton.mp h])
  | cons first rest ih =>
    rw [addTo] at h
    split at h
    · rcases List.mem_cons.mp h with rfl | hrest
      · exact .inr ⟨first, by simp, rfl⟩
      · exact .inr ⟨bucket, by simp [hrest], rfl⟩
    · rcases List.mem_cons.mp h with rfl | hrest
      · exact .inr ⟨first, by simp, rfl⟩
      · rcases ih hrest with heq | ⟨other, hother, heq⟩
        · exact .inl heq
        · exact .inr ⟨other, by simp [hother], heq⟩

/-- Under one pair of brackets a grammar holds the productions that were added to it. -/
theorem mem_pairsIn_addAll (hg : ∀ bucket ∈ g.buckets, AreUnder b bucket.1)
    (hps : ∀ p ∈ ps, AreUnder b p.head) (he : e ∈ pairsIn (g.addAll ps).buckets) :
    e ∈ pairsIn g.buckets ∨ ∃ p ∈ ps, p.sides = e := by
  induction ps generalizing g with
  | nil => exact .inl he
  | cons p ps ih =>
    rw [List.forall_mem_cons] at hps
    have hadded : ∀ bucket ∈ (g.add p).buckets, AreUnder b bucket.1 := by
      intro bucket hbucket
      rcases exists_of_mem_addTo hbucket with heq | ⟨other, hother, heq⟩
      · exact heq ▸ hps.1
      · exact heq ▸ hg other hother
    rcases ih hadded hps.2 he with hold | ⟨q, hq, heq⟩
    · have hsame : ∀ bucket ∈ g.buckets, (bucket.1 == p.head) = true → bucket.1 = p.head :=
        fun bucket hbucket => (hg bucket hbucket).eq_of_beq hps.1
      rcases mem_pairsIn_of_addTo hsame hold with hmem | heq
      · exact .inl hmem
      · exact .inr ⟨p, by simp, heq.symm⟩
    · exact .inr ⟨q, by simp [hq], heq⟩

/-- The first bucket has the head that was added first. -/
theorem head?_addAll (hg : g.buckets.head?.map Prod.fst = g.additions.head?)
    (ps : List Production) :
    (g.addAll ps).buckets.head?.map Prod.fst = (g.addAll ps).additions.head? := by
  induction ps generalizing g with
  | nil => exact hg
  | cons p ps ih =>
    refine ih ?_
    cases hbuckets : g.buckets with
    | nil =>
      have hnone : g.additions = [] := by
        rw [hbuckets] at hg
        exact List.head?_eq_none_iff.mp hg.symm
      simp [add, hbuckets, hnone, addTo]
    | cons bucket rest =>
      rw [hbuckets] at hg
      have hkept : (addTo p.head [p.daughters] (bucket :: rest)).head?.map Prod.fst =
          some bucket.1 := by
        rw [addTo]
        split <;> rfl
      rw [add, hbuckets, hkept, List.head?_append, ← hg]
      rfl

/-- The first head decides which start symbol is the default. -/
theorem defaultStart_congr (hfirst : g.additions.head? = h.additions.head?) :
    g.defaultStart = h.defaultStart := by
  obtain ⟨_, _, xs, _⟩ := g
  obtain ⟨_, _, ys, _⟩ := h
  rcases xs with - | ⟨x, xs⟩ <;> rcases ys with - | ⟨y, ys⟩
  · rfl
  · cases hfirst
  · cases hfirst
  · cases hfirst
    cases x <;> rfl

end Iterating

/-- A list of values of a function on some domain comes from a list of that domain. -/
theorem exists_map_eq {α β : Type} {f : α → β} {xs : List α} {ys : List β}
    (h : ∀ y ∈ ys, ∃ x ∈ xs, f x = y) : ∃ zs : List α, zs.map f = ys ∧ ∀ z ∈ zs, z ∈ xs := by
  induction ys with
  | nil => exact ⟨[], rfl, by simp⟩
  | cons y ys ih =>
    rw [List.forall_mem_cons] at h
    obtain ⟨x, hx, rfl⟩ := h.1
    obtain ⟨zs, rfl, hzs⟩ := ih h.2
    exact ⟨x :: zs, rfl, List.forall_mem_cons.mpr ⟨hx, hzs⟩⟩

/-- Productions under one pair of brackets that are added in the order in which the grammar gives
them fill the same buckets, and the same start symbol is chosen. -/
theorem exists_regrouped (conventions : Conventions) (hps : ∀ p ∈ ps, AreUnder b p.head) :
    ∃ qs : List Production, qs.map Production.sides = ((empty conventions).addAll ps).pairs ∧
      (∀ q ∈ qs, q ∈ ps) ∧
      ((empty conventions).addAll qs).buckets = ((empty conventions).addAll ps).buckets ∧
      ((empty conventions).addAll qs).defaultStart =
        ((empty conventions).addAll ps).defaultStart := by
  have hL := (Represents.empty conventions).addAll ps
  have hadded : ∀ e ∈ ((empty conventions).addAll ps).pairs, ∃ p ∈ ps, p.sides = e := by
    intro e he
    refine (mem_pairsIn_addAll ?_ hps he).resolve_left ?_
    · simp [empty]
    · simp [empty, pairsIn]
  obtain ⟨qs, hsides, hmem⟩ := exists_map_eq hadded
  have hbuckets : ((empty conventions).addAll qs).buckets =
      ((empty conventions).addAll ps).buckets := by
    have hnone : ∀ bucket ∈ ((empty conventions).addAll ps).buckets, ¬HasHead [] bucket.1 :=
      fun _ _ => hasHead_nil
    rw [addAll_buckets, hsides]
    exact addPairs_pairsIn hL.headsDiffer hL.noneEmpty hnone
  have hfirst : ((empty conventions).addAll qs).additions.head? =
      ((empty conventions).addAll ps).additions.head? := by
    rw [← head?_addAll (g := empty conventions) rfl, ← head?_addAll (g := empty conventions) rfl,
      hbuckets]
  exact ⟨qs, hsides, hmem, hbuckets, defaultStart_congr hfirst⟩

end PhraseStructure.Grammar
