import PhraseStructure.Proofs.Production.RoundTrip

/-!
# Writing a rule that was read

A production that was read from the text of a rule need not be read back from the text that it is
written as under another delimiter, or with other symbols. Under the delimiter that it was read with
it is: the two texts are the same without their blanks (`Production.removeBlanks_render_of_read`),
and nothing else matters for the reading (`Sides.read_congr`). So the symbols need not be looked at,
nor where the delimiter may stand in them.
-/

namespace PhraseStructure

open Text

variable {rule rule' d : String} {sides : Sides} {p q : Production} {b : Brackets}
  {xs ys : List Symbol}

/-- All symbols carry one pair of brackets. -/
def AreUnder (b : Brackets) (symbols : List Symbol) : Prop := ∀ s ∈ symbols, s.brackets = b

namespace AreUnder

/-- Symbols under one pair of brackets are determined by their texts. -/
theorem map_text (h : AreUnder b xs) : (xs.map Symbol.text).map (Symbol.mk · b) = xs := by
  rw [List.map_map]
  conv_rhs => rw [← List.map_id xs]
  refine List.map_congr_left fun s hs => ?_
  rw [Function.comp_apply, ← h s hs]
  rfl

/-- Symbols stay as they are under the brackets that they carry. -/
theorem map_rebracketed (h : AreUnder b xs) : xs.map (Production.rebracketed · b) = xs := by
  have htexts : xs.map (Production.rebracketed · b) = (xs.map Symbol.text).map (Symbol.mk · b) := by
    rw [List.map_map]
    rfl
  rw [htexts, h.map_text]

/-- Under one pair of brackets sequences with the same texts are the same. -/
theorem eq_of_beq (hx : AreUnder b xs) (hy : AreUnder b ys) (h : (xs == ys) = true) : xs = ys := by
  rw [← hx.map_text, ← hy.map_text, Symbol.list_beq_iff.mp h]

/-- Symbols that are made with one pair of brackets are under it. -/
theorem of_map_mk (texts : List String) (b : Brackets) :
    AreUnder b (texts.map (Symbol.mk · b)) := by
  intro s hs
  obtain ⟨text, -, rfl⟩ := List.mem_map.mp hs
  rfl

end AreUnder

/-- What is read depends on what is left without blanks. -/
theorem Sides.read_congr (h : read rule d = .ok sides)
    (hsame : removeBlanks rule'.toList = removeBlanks rule.toList) : read rule' d = .ok sides := by
  rw [read_eq_ok_iff] at h ⊢
  rwa [hsame]

namespace Production

/-- The production that is made of two sides carries the brackets throughout. -/
theorem ofSides_eq_ok_iff : ofSides sides (.text b.text) = .ok p ↔
    p.sideTexts = sides ∧ AreUnder b p.head ∧ AreUnder b p.daughters := by
  constructor
  · intro h
    obtain ⟨heads, hheads, h⟩ := bind_eq_ok_iff.mp h
    cases (readSide_map_text sides.head b).symm.trans hheads
    split at h
    · obtain ⟨daughters, hdaughters, h⟩ := bind_eq_ok_iff.mp h
      cases (readSide_map_text sides.daughters b).symm.trans hdaughters
      cases h
      refine ⟨?_, .of_map_mk sides.head b, .of_map_mk sides.daughters b⟩
      simp [sideTexts, texts, Function.comp_def]
    · cases h
  · rintro ⟨rfl, hhead, hdaughters⟩
    have hheads : readSide (.list (p.sideTexts.head.map .text)) (.text b.text) = .ok p.head :=
      (readSide_map_text _ b).trans (congrArg Except.ok hhead.map_text)
    have hothers : readSide (.list (p.sideTexts.daughters.map .text)) (.text b.text) =
        .ok p.daughters :=
      (readSide_map_text _ b).trans (congrArg Except.ok hdaughters.map_text)
    refine bind_eq_ok_iff.mpr ⟨_, hheads, ?_⟩
    rw [dif_pos p.head_ne_nil]
    exact bind_eq_ok_iff.mpr ⟨_, hothers, rfl⟩

/-- A production is read from a text if its sides are, and its symbols are under the given
brackets. -/
theorem ofText_eq_ok_iff : ofText (.text rule) (.text d) (.text b.text) = .ok p ↔
    Sides.read rule d = .ok p.sideTexts ∧ AreUnder b p.head ∧ AreUnder b p.daughters := by
  rw [ofText, bind_eq_ok_iff]
  constructor
  · rintro ⟨sides, hsides, h⟩
    obtain ⟨rfl, hunder⟩ := ofSides_eq_ok_iff.mp h
    exact ⟨hsides, hunder⟩
  · rintro ⟨hsides, hunder⟩
    exact ⟨_, hsides, ofSides_eq_ok_iff.mpr ⟨rfl, hunder⟩⟩

/-- A production is itself under the brackets that it carries. -/
theorem rewrap_of_areUnder (hhead : AreUnder b p.head) (hdaughters : AreUnder b p.daughters) :
    rewrap p.head p.daughters (.text b.text) = .ok p := by
  obtain ⟨head, daughters, hne⟩ := p
  rw [rewrap, dif_pos hne]
  refine bind_eq_ok_iff.mpr ⟨b, Brackets.read_text _ b, ?_⟩
  simp only [AreUnder.map_rebracketed hhead, AreUnder.map_rebracketed hdaughters]
  rfl

section Writing

variable (h : Sides.read rule d = .ok p.sideTexts)

include h

/-- Without its blanks, a rule is its two sides with the delimiter between them. -/
theorem removeBlanks_of_read : removeBlanks rule.toList =
    sideChars (texts p.head) ++ removeBlanks d.toList ++ sideChars (texts p.daughters) := by
  obtain ⟨-, -, -, hcut, -⟩ := Sides.read_eq_ok_iff.mp h
  exact eq_of_cut? hcut

/-- There is no blank in a symbol that was read. -/
theorem isBlank_of_read {c : Char}
    (hc : c ∈ sideChars (texts p.head) ∨ c ∈ sideChars (texts p.daughters)) :
    isBlank c = false := by
  have hmem : c ∈ removeBlanks rule.toList := by
    rw [removeBlanks_of_read h, List.mem_append, List.mem_append]
    tauto
  exact isBlank_of_mem_removeBlanks hmem

/-- What was read consists of readable symbols. -/
theorem isReadable_of_read : ∀ s ∈ p.symbols, IsReadable (removeBlanks d.toList) s.text := by
  obtain ⟨hne, -, hentry, hcut, hnone⟩ := Sides.read_eq_ok_iff.mp h
  obtain ⟨hheads, hothers⟩ := List.forall_mem_append.mp hentry
  have hhead := isReadable_of_sideChars hheads (fun c hc => isBlank_of_read h (.inl hc))
    (not_infix_of_cut? hne hcut)
  have hdaughters := isReadable_of_sideChars hothers (fun c hc => isBlank_of_read h (.inr hc)) hnone
  exact List.forall_mem_append.mpr
    ⟨List.forall_mem_map.mp hhead, List.forall_mem_map.mp hdaughters⟩

/-- Apart from blanks, a production is written as it was read. -/
theorem removeBlanks_render_of_read :
    removeBlanks (p.render d).toList = removeBlanks rule.toList := by
  have hvisible : ∀ cs, (∀ c ∈ cs, isBlank c = false) → removeBlanks cs = cs :=
    fun cs hcs => List.filter_eq_self.mpr fun c hc => by simp [hcs c hc]
  rw [removeBlanks_render, removeBlanks_of_read h,
    hvisible _ fun c hc => isBlank_of_read h (.inl hc),
    hvisible _ fun c hc => isBlank_of_read h (.inr hc), List.append_assoc]

/-- A production that was read is read back from its own text. -/
theorem read_render_of_read : Sides.read (p.render d) d = .ok p.sideTexts :=
  Sides.read_congr h (removeBlanks_render_of_read h)

/-- A production is written on one line, if the delimiter is. -/
theorem newline_not_mem_render (hd : '\n' ∉ d.toList) : '\n' ∉ (p.render d).toList := by
  have hchars : (p.render d).toList = sideChars (texts p.head) ++
      (' ' :: d.toList ++ ' ' :: sideChars (texts p.daughters)) := by
    simp [render, joinStrings, sideChars]
  have hvisible : ∀ {c}, isBlank c = false → c ≠ '\n' := by
    rintro c hc rfl
    exact absurd hc (by decide)
  rw [hchars]
  simp only [List.mem_append, List.mem_cons, not_or]
  exact ⟨fun hmem => hvisible (isBlank_of_read h (.inl hmem)) rfl, ⟨by decide, hd⟩, by decide,
    fun hmem => hvisible (isBlank_of_read h (.inr hmem)) rfl⟩

/-- A production that can be read back is not written as blanks. -/
theorem not_allBlank_render : allBlank (p.render d).toList = false := by
  rw [← Bool.not_eq_true]
  intro hblank
  have hnone := removeBlanks_eq_nil_iff.mpr hblank
  rw [removeBlanks_render_of_read h, removeBlanks_of_read h] at hnone
  obtain ⟨hdelim, -⟩ := Sides.read_eq_ok_iff.mp h
  simp [hdelim] at hnone

end Writing

end Production

end PhraseStructure
