import PhraseStructure.Proofs.Grammar.Equality
import PhraseStructure.Proofs.Grammar.Regrouping
import PhraseStructure.Proofs.Grammar.Terminals

/-!
# The texts of the productions of a grammar

Symbols are compared by their texts, so that what can be seen of a grammar from outside depends on
the texts that it stores (`pairTexts`, `bucketTexts`). They are the texts of the productions that it
gives (`map_sideTexts_productions`), and stay the same under other brackets. Two grammars are equal
exactly if they have the same daughters under each head, as texts (`Represents.equal_iff_texts`),
so that only the order of the heads may differ (`Represents.perm_pairTexts_of_equal`), and a
production occurs in a grammar exactly if its texts do (`Represents.mem_iff`).
-/

namespace PhraseStructure

open Production

variable {g g' : Grammar} {p : Production} {ps qs : List Production} {b : Brackets}

namespace Production

/-- The same production with other brackets. -/
def under (p : Production) (b : Brackets) : Production :=
  ⟨p.head.map (rebracketed · b), p.daughters.map (rebracketed · b), by simpa using p.head_ne_nil⟩

/-- Other brackets leave the texts of symbols as they are. -/
theorem texts_rebracketed (symbols : List Symbol) (b : Brackets) :
    texts (symbols.map (rebracketed · b)) = texts symbols := by
  rw [texts, List.map_map]
  rfl

/-- Other brackets leave the texts of a production as they are. -/
@[simp] theorem sideTexts_under (p : Production) (b : Brackets) :
    (p.under b).sideTexts = p.sideTexts := by
  rw [sideTexts, under, texts_rebracketed, texts_rebracketed, sideTexts]

/-- A production is written in the same way under other brackets. -/
@[simp] theorem render_under (p : Production) (b : Brackets) (d : String) :
    (p.under b).render d = p.render d := by
  rw [render, under, texts_rebracketed, texts_rebracketed, render]

/-- Sequences of productions are the same when the texts of their sides are. -/
theorem list_beq_iff : (ps == qs) = true ↔ ps.map sideTexts = qs.map sideTexts := by
  induction ps generalizing qs with
  | nil => cases qs <;> simp
  | cons p ps ih => cases qs <;> simp [ih, beq_iff_sideTexts]

/-- Under one pair of brackets productions with the same texts are the same. -/
theorem eq_of_sideTexts {q : Production} (hq : AreUnder b q.symbols) (hp : AreUnder b p.symbols)
    (h : q.sideTexts = p.sideTexts) : q = p := by
  obtain ⟨hqhead, hqdaughters⟩ := areUnder_append.mp hq
  obtain ⟨hphead, hpdaughters⟩ := areUnder_append.mp hp
  obtain ⟨hhead, hdaughters⟩ := beq_iff.mp (beq_iff_sideTexts.mpr h)
  exact sides_injective (Prod.ext (hqhead.eq_of_beq hphead hhead)
    (hqdaughters.eq_of_beq hpdaughters hdaughters))

end Production

namespace Grammar

variable {L L' : List (List Symbol × List Symbol)} {buckets buckets' : List Bucket}
  {head head' : List Symbol} {more more' : List (List Symbol)}
  {pairs pairs' : List (List Symbol × List Symbol)} {sides : Sides} {rules rules' : List Sides}
  {key : List String}

section Buckets

/-- The texts of a head and of its daughters. -/
def pairTexts (e : List Symbol × List Symbol) : Sides := ⟨texts e.1, texts e.2⟩

/-- The texts of a head and of all its daughters. -/
def bucketTexts (bucket : Bucket) : List String × List (List String) :=
  (texts bucket.1, bucket.2.map texts)

/-- The productions in some buckets have the texts that are in the buckets. -/
theorem map_pairTexts_pairsIn (buckets : List Bucket) : (pairsIn buckets).map pairTexts =
    (buckets.map bucketTexts).flatMap fun bucket => bucket.2.map (Sides.mk bucket.1) := by
  rw [pairsIn, List.map_flatMap, List.flatMap_map]
  refine List.flatMap_congr fun bucket _ => ?_
  rw [bucketTexts, List.map_map, List.map_map]
  rfl

/-- Adding the same texts to buckets with the same texts leaves the same texts. -/
theorem map_bucketTexts_addTo (hhead : texts head = texts head')
    (hmore : more.map texts = more'.map texts)
    (hbuckets : buckets.map bucketTexts = buckets'.map bucketTexts) :
    (addTo head more buckets).map bucketTexts = (addTo head' more' buckets').map bucketTexts := by
  induction buckets generalizing buckets' with
  | nil =>
    obtain rfl : buckets' = [] := by simpa using hbuckets.symm
    simp [addTo, bucketTexts, hhead, hmore]
  | cons bucket rest ih =>
    cases buckets' with
    | nil => simp at hbuckets
    | cons bucket' rest' =>
      obtain ⟨hfirst, hrest⟩ := List.cons.inj hbuckets
      obtain ⟨hkey, hds⟩ := Prod.mk.inj hfirst
      have hsame : (bucket.1 == head) = (bucket'.1 == head') := by
        rw [Bool.eq_iff_iff, Symbol.list_beq_iff, Symbol.list_beq_iff]
        exact iff_of_eq (congrArg₂ (· = ·) hkey hhead)
      rw [addTo, addTo, hsame]
      split
      · rw [List.map_cons, List.map_cons, hrest, bucketTexts, bucketTexts, hkey, List.map_append,
          List.map_append, hds, hmore]
      · rw [List.map_cons, List.map_cons, hfirst, ih hrest]

/-- Productions with the same texts fill buckets with the same texts. -/
theorem map_bucketTexts_addPairs (hpairs : pairs.map pairTexts = pairs'.map pairTexts)
    (hbuckets : buckets.map bucketTexts = buckets'.map bucketTexts) :
    (addPairs pairs buckets).map bucketTexts = (addPairs pairs' buckets').map bucketTexts := by
  induction pairs generalizing pairs' buckets buckets' with
  | nil =>
    obtain rfl : pairs' = [] := by simpa using hpairs.symm
    exact hbuckets
  | cons e pairs ih =>
    cases pairs' with
    | nil => simp at hpairs
    | cons e' pairs' =>
      obtain ⟨hfirst, hrest⟩ := List.cons.inj hpairs
      obtain ⟨hhead, hdaughters⟩ := Sides.mk.inj hfirst
      have hone : [e.2].map texts = [e'.2].map texts := by
        rw [List.map_singleton, List.map_singleton, hdaughters]
      have htail := ih hrest (map_bucketTexts_addTo hhead hone hbuckets)
      exact htail

/-- Under a head, buckets with the same texts hold the same texts. -/
theorem map_texts_lookup (h : buckets.map bucketTexts = buckets'.map bucketTexts)
    (head : List Symbol) : (lookup head buckets).map texts = (lookup head buckets').map texts := by
  induction buckets generalizing buckets' with
  | nil =>
    obtain rfl : buckets' = [] := by simpa using h.symm
    rfl
  | cons bucket rest ih =>
    cases buckets' with
    | nil => simp at h
    | cons bucket' rest' =>
      obtain ⟨hfirst, hrest⟩ := List.cons.inj h
      obtain ⟨hkey, hds⟩ := Prod.mk.inj hfirst
      have hsame : (bucket.1 == head) = (bucket'.1 == head) :=
        BEq.congr_left (Symbol.list_beq_iff.mpr hkey)
      rw [lookup, lookup, hsame]
      split
      · exact hds
      · exact ih hrest

/-- Grammars whose buckets have the same texts are equal. -/
theorem Represents.equal_of_bucketTexts (hg : Represents g L) (hg' : Represents g' L')
    (h : g.buckets.map bucketTexts = g'.buckets.map bucketTexts) : g.equal g' = true :=
  (hg.equal_iff hg').mpr fun head => daughters_beq_iff.mpr (map_texts_lookup h head)

/-- The productions that a grammar gives have the texts that it stores. -/
theorem map_sideTexts_productions (h : g.productions = .ok ps) :
    ps.map sideTexts = g.pairs.map pairTexts := by
  have hreadings : g.readings = ps.map .ok := mapM_id_eq_ok_iff.mp h
  rw [readings, ← List.forall₂_eq_eq_eq, List.forall₂_map_left_iff,
    List.forall₂_map_right_iff] at hreadings
  rw [← List.forall₂_eq_eq_eq, List.forall₂_map_left_iff, List.forall₂_map_right_iff]
  refine hreadings.flip.imp fun p e hread => ?_
  obtain ⟨b, -, hhead, hdaughters⟩ := rewrap_eq_ok_iff.mp hread
  rw [sideTexts, hhead, hdaughters, texts_rebracketed, texts_rebracketed, pairTexts]

/-- The texts of a production are those of its head and its daughters. -/
theorem map_pairTexts_sides (ps : List Production) :
    (ps.map Production.sides).map pairTexts = ps.map sideTexts := by
  rw [List.map_map]
  rfl

/-- The sides of these productions have the texts that the grammar stores, too. -/
theorem map_pairTexts_sides_productions (h : g.productions = .ok ps) :
    (ps.map Production.sides).map pairTexts = g.pairs.map pairTexts := by
  rw [map_pairTexts_sides, map_sideTexts_productions h]

end Buckets

section Daughters

/-- The daughters that stand under a head, as texts. -/
def daughterTexts (key : List String) (rules : List Sides) : List (List String) :=
  (rules.filter (·.head = key)).map Sides.daughters

/-- The daughters of further rules come behind those of the first. -/
theorem daughterTexts_append : daughterTexts key (rules ++ rules') =
    daughterTexts key rules ++ daughterTexts key rules' := by
  rw [daughterTexts, List.filter_append, List.map_append, daughterTexts, daughterTexts]

/-- Leaving out rules leaves out their daughters. -/
theorem daughterTexts_filter (keep : Sides → Bool) : daughterTexts key (rules.filter keep) =
    (daughterTexts key rules).filter fun daughters => keep ⟨key, daughters⟩ := by
  have hkept : ∀ sides ∈ rules.filter (·.head = key),
      keep sides = keep ⟨key, sides.daughters⟩ := by
    intro sides hsides
    have hhead : sides.head = key := of_decide_eq_true (List.mem_filter.mp hsides).2
    rw [← hhead]
  rw [daughterTexts, List.filter_comm, List.filter_congr hkept, daughterTexts, List.filter_map]
  rfl

/-- A rule is found under its head. -/
theorem mem_daughterTexts_iff :
    sides.daughters ∈ daughterTexts sides.head rules ↔ sides ∈ rules := by
  rw [daughterTexts, List.mem_map]
  constructor
  · rintro ⟨found, hfound, hdaughters⟩
    obtain ⟨hmem, hhead⟩ := List.mem_filter.mp hfound
    obtain rfl : found = sides := by
      cases found
      cases sides
      exact Sides.mk.injEq _ _ _ _ ▸ ⟨of_decide_eq_true hhead, hdaughters⟩
    exact hmem
  · intro hmem
    exact ⟨sides, List.mem_filter.mpr ⟨hmem, decide_eq_true rfl⟩, rfl⟩

/-- A rule is found under its head as often as it occurs. -/
theorem count_daughterTexts :
    (daughterTexts sides.head rules).count sides.daughters = rules.count sides := by
  rw [daughterTexts, List.count_eq_countP, List.countP_map, List.countP_filter,
    List.count_eq_countP]
  refine List.countP_congr fun rule _ => ?_
  cases rule
  cases sides
  simp [and_comm]

/-- The daughters of a head are looked up by its texts. -/
theorem map_texts_filter (head : List Symbol) (pairs : List (List Symbol × List Symbol)) :
    ((pairs.filter (·.1 == head)).map Prod.snd).map texts =
      daughterTexts (texts head) (pairs.map pairTexts) := by
  have hsame : ∀ e : List Symbol × List Symbol,
      (e.1 == head) = decide ((pairTexts e).head = texts head) := by
    intro e
    rw [Bool.eq_iff_iff, Symbol.list_beq_iff, decide_eq_true_iff]
    rfl
  rw [daughterTexts, List.filter_map, List.map_map, List.map_map]
  simp only [hsame]
  rfl

/-- Every sequence of texts is that of some symbols. -/
theorem exists_texts_eq (key : List String) : ∃ head, texts head = key :=
  ⟨key.map (Symbol.mk · .square), by simp [texts, Function.comp_def]⟩

/-- The texts under a head are those of the productions, in the order of addition. -/
theorem Represents.daughterTexts_pairs (h : Represents g L) (key : List String) :
    daughterTexts key (g.pairs.map pairTexts) = daughterTexts key (L.map pairTexts) := by
  obtain ⟨head, rfl⟩ := exists_texts_eq key
  rw [← map_texts_filter, ← map_texts_filter, ← h.daughtersOf_eq, daughtersOf,
    ← filter_pairsIn h.headsDiffer]
  rfl

/-- A grammar holds the texts of the productions that it represents, and no others. -/
theorem Represents.mem_pairTexts_iff (h : Represents g L) :
    sides ∈ g.pairs.map pairTexts ↔ sides ∈ L.map pairTexts := by
  rw [← mem_daughterTexts_iff, h.daughterTexts_pairs, mem_daughterTexts_iff]

/-- Grammars are equal exactly if the same texts stand under each head. -/
theorem Represents.equal_iff_texts (hg : Represents g L) (hg' : Represents g' L') :
    g.equal g' = true ↔ ∀ key,
      daughterTexts key (g.pairs.map pairTexts) = daughterTexts key (g'.pairs.map pairTexts) := by
  have htexts : ∀ head, ((g.daughtersOf head == g'.daughtersOf head) = true) ↔
      daughterTexts (texts head) (g.pairs.map pairTexts) =
        daughterTexts (texts head) (g'.pairs.map pairTexts) := by
    intro head
    rw [daughters_beq_iff, hg.daughterTexts_pairs, hg'.daughterTexts_pairs, hg.daughtersOf_eq,
      hg'.daughtersOf_eq, map_texts_filter, map_texts_filter]
  rw [hg.equal_iff hg']
  constructor
  · intro h key
    obtain ⟨head, rfl⟩ := exists_texts_eq key
    exact (htexts head).mp (h head)
  · intro h head
    exact (htexts head).mpr (h _)

/-- Equal grammars hold productions with the same texts. -/
theorem Represents.mem_pairTexts_of_equal (hg : Represents g L) (hg' : Represents g' L')
    (h : g.equal g' = true) : sides ∈ g.pairs.map pairTexts ↔ sides ∈ g'.pairs.map pairTexts := by
  rw [← mem_daughterTexts_iff, (hg.equal_iff_texts hg').mp h, mem_daughterTexts_iff]

/-- Equal grammars hold these as often as each other, and differ only in the order of the heads. -/
theorem Represents.perm_pairTexts_of_equal (hg : Represents g L) (hg' : Represents g' L')
    (h : g.equal g' = true) : (g.pairs.map pairTexts).Perm (g'.pairs.map pairTexts) := by
  refine List.perm_iff_count.mpr fun sides => ?_
  rw [← count_daughterTexts, (hg.equal_iff_texts hg').mp h, count_daughterTexts]

/-- A production occurs in a grammar exactly if its texts do. -/
theorem Represents.mem_iff (h : Represents g L) :
    g.mem p = true ↔ p.sideTexts ∈ g.pairs.map pairTexts := by
  have hfound : g.mem p = true ↔ texts p.daughters ∈ (g.daughtersOf p.head).map texts := by
    rw [mem, List.contains_iff_exists_mem_beq, List.mem_map]
    exact exists_congr fun d => and_congr_right fun _ => Symbol.list_beq_iff.trans eq_comm
  rw [hfound, h.daughtersOf_eq, map_texts_filter, h.mem_pairTexts_iff]
  change p.sideTexts.daughters ∈ daughterTexts p.sideTexts.head _ ↔ _
  exact mem_daughterTexts_iff

/-- The productions that a grammar gives are those with texts of it, under its brackets. -/
theorem mem_productions_iff (hb : g.conventions.brackets = .text b.text)
    (h : g.productions = .ok ps) :
    p ∈ ps ↔ p.sideTexts ∈ g.pairs.map pairTexts ∧ AreUnder b p.symbols := by
  have hunder : ∀ q ∈ ps, AreUnder b q.symbols := by
    intro q hq
    have hreadings : g.readings = ps.map .ok := mapM_id_eq_ok_iff.mp h
    have hmem : Except.ok q ∈ g.readings := hreadings ▸ List.mem_map_of_mem hq
    obtain ⟨e, -, hread⟩ := List.mem_map.mp hmem
    rw [hb] at hread
    exact areUnder_of_rewrap hread
  rw [← map_sideTexts_productions h, List.mem_map]
  constructor
  · intro hp
    exact ⟨⟨p, hp, rfl⟩, hunder p hp⟩
  · rintro ⟨⟨q, hq, htexts⟩, hp⟩
    rwa [← eq_of_sideTexts (hunder q hq) hp htexts]

/-- Productions under the brackets of a grammar that have its texts are those that it gives. -/
theorem productions_of_sideTexts (hb : g.conventions.brackets = .text b.text)
    (htexts : ps.map sideTexts = g.pairs.map pairTexts)
    (hunder : ∀ p ∈ ps, AreUnder b p.symbols) : g.productions = .ok ps := by
  have hread : ∀ (p : Production) (e : List Symbol × List Symbol),
      AreUnder b p.symbols ∧ p.sideTexts = pairTexts e →
        rewrap e.1 e.2 g.conventions.brackets = .ok p := by
    rintro p e ⟨hp, hsame⟩
    obtain ⟨hhead, hdaughters⟩ := areUnder_append.mp hp
    obtain ⟨hkey, hds⟩ := Sides.mk.inj hsame
    rw [hb, rewrap_text_eq_ok_iff]
    constructor
    · rw [← hhead.map_text, ← texts, hkey, texts, List.map_map]
      rfl
    · rw [← hdaughters.map_text, ← texts, hds, texts, List.map_map]
      rfl
  rw [← List.forall₂_eq_eq_eq, List.forall₂_map_left_iff, List.forall₂_map_right_iff] at htexts
  rw [productions, mapM_id_eq_ok_iff, readings, ← List.forall₂_eq_eq_eq,
    List.forall₂_map_left_iff, List.forall₂_map_right_iff]
  exact (((List.forall₂_and_left ps g.pairs).mpr ⟨hunder, htexts⟩).imp hread).flip

end Daughters

end Grammar

end PhraseStructure
