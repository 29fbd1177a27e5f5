import PhraseStructure.Proofs.Grammar.Texts

/-!
# The classes of grammars that are put together

Most classes ask something of every production of a grammar (`Class.universal`), some only of one
(`Class.existential`), so that a class depends only on which productions a grammar gives, and not on
their order or their number (`Class.holds_congr`). From what occurs in a union, in a difference and
after a removal (`Represents.exists_union_mem`, `Represents.exists_difference_subset`,
`IsSound.popGiven_subset`) it follows which classes these belong to (`ReachableFrom.class_laws`).
-/

namespace PhraseStructure.Grammar

open Production

variable {g h : Grammar} {L L' : List (List Symbol × List Symbol)} {ps qs us : List Production}
  {p : Production} {b : Brackets} {c : Class} {rules : Rules}

namespace Class

/-- The classes that ask something of every production. -/
def universal : List Class :=
  [contextFree, rightRegular, leftRegular, linear, chomskyNormal, greibachNormal]

/-- The classes that ask something of one production. -/
def existential : List Class := [leftRecursive, cyclic]

/-- Such a class asks of every production that it has some shape. -/
theorem exists_holds_eq_all (hc : c ∈ universal) :
    ∃ shape : Production → Bool, ∀ ps, c.holds ps = ps.all shape := by
  simp only [universal, List.mem_cons, List.not_mem_nil, or_false] at hc
  rcases hc with rfl | rfl | rfl | rfl | rfl | rfl <;> exact ⟨_, fun _ => rfl⟩

/-- Such a class asks for one production of some shape. -/
theorem exists_holds_eq_any (hc : c ∈ existential) :
    ∃ shape : Production → Bool, ∀ ps, c.holds ps = ps.any shape := by
  simp only [existential, List.mem_cons, List.not_mem_nil, or_false] at hc
  rcases hc with rfl | rfl <;> exact ⟨_, fun _ => rfl⟩

/-- A class depends only on which productions there are. -/
theorem holds_congr (hsame : ∀ p, p ∈ ps ↔ p ∈ qs) (c : Class) : c.holds ps = c.holds qs := by
  have hall : ∀ shape, ps.all shape = qs.all shape := by
    intro shape
    rw [Bool.eq_iff_iff, List.all_eq_true, List.all_eq_true]
    exact forall_congr' fun p => imp_congr_left (hsame p)
  have hany : ∀ shape, ps.any shape = qs.any shape := by
    intro shape
    rw [Bool.eq_iff_iff, List.any_eq_true, List.any_eq_true]
    exact exists_congr fun p => and_congr_left fun _ => hsame p
  cases c <;> simp only [holds, hall, hany]

/-- What is asked of every production holds of fewer of them. -/
theorem holds_of_subset (hc : c ∈ universal) (hsub : ps ⊆ qs) (hholds : c.holds qs = true) :
    c.holds ps = true := by
  obtain ⟨shape, hshape⟩ := exists_holds_eq_all hc
  rw [hshape, List.all_eq_true] at hholds ⊢
  exact fun p hp => hholds p (hsub hp)

/-- What is asked of every production holds of a union if it holds of both parts. -/
theorem holds_union_of_universal (hc : c ∈ universal) (hmem : ∀ p, p ∈ us ↔ p ∈ ps ∨ p ∈ qs) :
    c.holds us = (c.holds ps && c.holds qs) := by
  obtain ⟨shape, hshape⟩ := exists_holds_eq_all hc
  have happend : c.holds us = c.holds (ps ++ qs) :=
    holds_congr (fun p => (hmem p).trans List.mem_append.symm) c
  rw [happend, hshape, hshape, hshape, List.all_append]

/-- What is asked of one production holds of a union if it holds of one of the parts. -/
theorem holds_union_of_existential (hc : c ∈ existential)
    (hmem : ∀ p, p ∈ us ↔ p ∈ ps ∨ p ∈ qs) : c.holds us = (c.holds ps || c.holds qs) := by
  obtain ⟨shape, hshape⟩ := exists_holds_eq_any hc
  have happend : c.holds us = c.holds (ps ++ qs) :=
    holds_congr (fun p => (hmem p).trans List.mem_append.symm) c
  rw [happend, hshape, hshape, hshape, List.any_append]

end Class

section Occurring

/-- What is represented by a part of a list gives some of the productions, under the same brackets.
-/
theorem Represents.productions_subset (hg : Represents g L) (hh : Represents h L')
    (hb : g.conventions.brackets = .text b.text) (hb' : h.conventions.brackets = .text b.text)
    (hps : g.productions = .ok ps) (hqs : h.productions = .ok qs)
    (hsub : L'.map pairTexts ⊆ L.map pairTexts) : qs ⊆ ps := by
  intro p hp
  obtain ⟨htexts, hunder⟩ := (mem_productions_iff hb' hqs).mp hp
  rw [hh.mem_pairTexts_iff] at htexts
  exact (mem_productions_iff hb hps).mpr ⟨hg.mem_pairTexts_iff.mpr (hsub htexts), hunder⟩

/-- In a union occur the productions of both grammars. -/
theorem Represents.exists_union_mem (hL : Represents g L) (hg : g.IsUsable)
    (hb : g.conventions.brackets = .text b.text) (hb' : h.conventions.brackets = .text b.text)
    (hps : g.productions = .ok ps) (hqs : h.productions = .ok qs) :
    ∃ u us, (g.union (.grammar h)).result = .ok u ∧ u.productions = .ok us ∧
      ∀ p, p ∈ us ↔ p ∈ ps ∨ p ∈ qs := by
  obtain ⟨u, hu, hU, husable, hconventions⟩ :=
    hL.exists_union hg ((Rules.productions_grammar g h).trans hqs)
  obtain ⟨us, hus⟩ := hU.exists_productions husable
  have hbrackets : u.conventions.brackets = .text b.text := by rw [hconventions, hb]
  refine ⟨u, us, hu, hus, fun p => ?_⟩
  rw [mem_productions_iff hbrackets hus, mem_productions_iff hb hps, mem_productions_iff hb' hqs,
    hU.mem_pairTexts_iff, hL.mem_pairTexts_iff, List.map_append,
    map_pairTexts_sides_productions hqs, List.mem_append, or_and_right]

/-- In a difference occur only productions of the first grammar. -/
theorem Represents.exists_difference_subset (hL : Represents g L) (hg : g.IsUsable)
    (hps : g.productions = .ok ps) (hqs : rules.productions g = .ok qs) :
    ∃ d ds, (g.difference rules).result = .ok d ∧ d.productions = .ok ds ∧ ds ⊆ ps := by
  obtain ⟨b, hb⟩ := hg.brackets_valid
  obtain ⟨d, hd, hD, -, husable, hconventions⟩ := exists_represents_difference hg hps hqs
  obtain ⟨ds, hds⟩ := hD.exists_productions husable
  have hbrackets : d.conventions.brackets = .text b.text := by rw [hconventions, hb]
  have hkept : ((ps.filter (!qs.contains ·)).map sides).map pairTexts ⊆ L.map pairTexts := by
    intro t ht
    rw [← hL.mem_pairTexts_iff, ← map_sideTexts_productions hps]
    rw [List.map_map] at ht
    exact List.map_subset _ List.filter_sublist.subset ht
  exact ⟨d, ds, hd, hds, hL.productions_subset hD hb hbrackets hps hds hkept⟩

/-- After a removal occur only productions that were there before. -/
theorem IsSound.popGiven_subset (hg : g.IsSound) (hps : g.productions = .ok ps) (index : Datum) :
    ∃ rs, (g.popGiven index).grammar.productions = .ok rs ∧ rs ⊆ ps := by
  obtain ⟨b, hb⟩ := hg.usable.brackets_valid
  obtain ⟨L, hL⟩ := hg.represents
  obtain ⟨L', hL'⟩ := (hg.popGiven index).represents
  obtain ⟨rs, hrs⟩ := hL'.exists_productions (hg.popGiven index).usable
  refine ⟨rs, hrs, ?_⟩
  rcases hL.removesOne_popGiven index with hsame | ⟨before, e, after, rfl, hrest, -⟩
  · rw [hsame, hps] at hrs
    cases hrs
    exact List.Subset.refl ps
  · have hbrackets : (g.popGiven index).grammar.conventions.brackets = .text b.text := by
      rw [conventions_popGiven, hb]
    refine hL.productions_subset hrest hb hbrackets hps hrs (List.map_subset _ ?_)
    exact List.append_subset.mpr
      ⟨List.subset_append_left _ _, fun e' he' => by simp [he']⟩

/-- What is asked of every production of a grammar holds in one that gives some of them. -/
theorem belongs_of_subset (hps : g.productions = .ok ps) (hqs : h.productions = .ok qs)
    (hsub : qs ⊆ ps) (hc : c ∈ Class.universal) (hholds : g.belongs c = .ok true) :
    h.belongs c = .ok true := by
  rw [belongs_eq hps, Except.ok.injEq] at hholds
  rw [belongs_eq hqs, Class.holds_of_subset hc hsub hholds]

end Occurring

/-- A union belongs to a class that asks something of every production if both grammars do, and to
one that asks something of some production if one of them does. What is asked of every production is
kept by a difference and by a removal. All this is decided without failure. Equal grammars belong to
the same classes. -/
theorem ReachableFrom.class_laws (hg : ReachableFrom IsAccepted g)
    (hh : ReachableFrom IsAccepted h) (husable : g.IsUsable) (husable' : h.IsUsable)
    (hbrackets : g.conventions.brackets = h.conventions.brackets) :
    (∃ u, (g.union (.grammar h)).result = .ok u ∧
      (∀ c ∈ Class.universal, ∃ x y, g.belongs c = .ok x ∧ h.belongs c = .ok y ∧
        u.belongs c = .ok (x && y)) ∧
      ∀ c ∈ Class.existential, ∃ x y, g.belongs c = .ok x ∧ h.belongs c = .ok y ∧
        u.belongs c = .ok (x || y)) ∧
      (∃ d, (g.difference (.grammar h)).result = .ok d ∧
        ∀ c ∈ Class.universal, g.belongs c = .ok true → d.belongs c = .ok true) ∧
      (∀ index, ∀ c ∈ Class.universal, g.belongs c = .ok true →
        (g.popGiven index).grammar.belongs c = .ok true) ∧
      (g.equal h = true → ∃ classes, g.classify = .ok classes ∧ h.classify = .ok classes) := by
  obtain ⟨L, hL⟩ := hg.exists_represents
  obtain ⟨L', hL'⟩ := hh.exists_represents
  obtain ⟨b, hb⟩ := husable.brackets_valid
  have hb' : h.conventions.brackets = .text b.text := hbrackets ▸ hb
  obtain ⟨ps, hps⟩ := hL.exists_productions husable
  obtain ⟨qs, hqs⟩ := hL'.exists_productions husable'
  refine ⟨?_, ?_, ?_, ?_⟩
  · obtain ⟨u, us, hu, hus, hmem⟩ := hL.exists_union_mem husable hb hb' hps hqs
    refine ⟨u, hu, fun c hc => ?_, fun c hc => ?_⟩
    · refine ⟨_, _, belongs_eq hps c, belongs_eq hqs c, ?_⟩
      rw [belongs_eq hus, Class.holds_union_of_universal hc hmem]
    · refine ⟨_, _, belongs_eq hps c, belongs_eq hqs c, ?_⟩
      rw [belongs_eq hus, Class.holds_union_of_existential hc hmem]
  · obtain ⟨d, ds, hd, hds, hsub⟩ := hL.exists_difference_subset husable hps
      ((Rules.productions_grammar g h).trans hqs)
    exact ⟨d, hd, fun c hc => belongs_of_subset hps hds hsub hc⟩
  · intro index c hc
    obtain ⟨rs, hrs, hsub⟩ := IsSound.popGiven_subset ⟨husable, L, hL⟩ hps index
    exact belongs_of_subset hps hrs hsub hc
  · intro hequal
    have hsame : ∀ p, p ∈ ps ↔ p ∈ qs := by
      intro p
      rw [mem_productions_iff hb hps, mem_productions_iff hb' hqs,
        hL.mem_pairTexts_of_equal hL' hequal]
    refine ⟨_, classify_eq hps, ?_⟩
    rw [classify_eq hqs]
    simp only [Class.holds_congr hsame]

/-- A right-regular grammar and a left-regular one with the same head. -/
theorem class_laws_linear :
    ∃ g h u, ReachableFrom IsAccepted g ∧ ReachableFrom IsAccepted h ∧ g.IsUsable ∧ h.IsUsable ∧
      (g.union (.grammar h)).result = .ok u ∧ g.belongs .rightRegular = .ok true ∧
      u.belongs .rightRegular = .ok false ∧ u.belongs .linear = .ok true ∧
      u.belongs .leftRecursive = .ok true ∧
      (g.popGiven .null).grammar.belongs .rightRegular = .ok true ∧
      g.equal h = false := by
  let s : Symbol := ⟨"S", .square⟩
  let a : Symbol := ⟨"[a]", .square⟩
  let first : Production := ⟨[s], [a, s], by simp⟩
  let second : Production := ⟨[s], [a], by simp⟩
  let third : Production := ⟨[s], [s, a], by simp⟩
  let g : Grammar := { (empty {}).addAll [first, second] with start := some s }
  let h : Grammar := { (empty {}).addAll [second, third] with start := some s }
  have hmake : (make {} (.given (.list [.production first, .production second])) .null).result =
      .ok g := rfl
  have hmake' : (make {} (.given (.list [.production second, .production third])) .null).result =
      .ok h := rfl
  have husable : g.IsUsable := ⟨⟨.square, rfl⟩, by simp [g, add, empty, first, second]⟩
  have husable' : h.IsUsable := ⟨⟨.square, rfl⟩, by simp [h, add, empty, second, third]⟩
  have hg : ReachableFrom IsAccepted g := .initial ⟨_, _, _, hmake⟩
  have hh : ReachableFrom IsAccepted h := .initial ⟨_, _, _, hmake'⟩
  obtain ⟨⟨u, hu, hall, hsome⟩, -, hpop, -⟩ := hg.class_laws hh husable husable' rfl
  have hright : g.belongs .rightRegular = .ok true := by cbv
  have hright' : h.belongs .rightRegular = .ok false := by cbv
  have hlinear : g.belongs .linear = .ok true := by cbv
  have hlinear' : h.belongs .linear = .ok true := by cbv
  refine ⟨g, h, u, hg, hh, husable, husable', hu, hright, ?_, ?_, ?_,
    hpop .null .rightRegular (by decide) hright, rfl⟩
  · obtain ⟨x, y, hx, hy, hxy⟩ := hall .rightRegular (by decide)
    cases hright.symm.trans hx
    cases hright'.symm.trans hy
    exact hxy
  · obtain ⟨x, y, hx, hy, hxy⟩ := hall .linear (by decide)
    cases hlinear.symm.trans hx
    cases hlinear'.symm.trans hy
    exact hxy
  · obtain ⟨x, y, hx, hy, hxy⟩ := hsome .leftRecursive (by decide)
    have hnone : g.belongs .leftRecursive = .ok false := by cbv
    have hfound : h.belongs .leftRecursive = .ok true := by cbv
    cases hnone.symm.trans hx
    cases hfound.symm.trans hy
    exact hxy

end PhraseStructure.Grammar
