import PhraseStructure.Production.Rule
import PhraseStructure.Proofs.Outcome
import PhraseStructure.Proofs.Text.Cut

/-!
# Reading a production that was written

The text of a rule is read by what is left of it without blanks: this is cut at the delimiter, and
each side at its commas (`Sides.read_eq_ok_iff`). A production is read back from its own text if the
printed delimiter is the first place where the delimiter stands, which no symbol can prevent that
does not hold the delimiter as a whole, as long as the delimiter has no border
(`Production.read_render_iff`).
-/

namespace PhraseStructure

open Text

/-- The characters of one side of a rule: its symbols, with commas between them. -/
def sideChars (symbols : List String) : List Char := join [','] (symbols.map String.toList)

namespace Sides

/-- A text that can stand between commas. -/
def IsEntry (s : String) : Prop := s ≠ "" ∧ ',' ∉ s.toList

variable {rule delimiter s : String} {symbols : List String} {side : List Char} {sides : Sides}

/-- A side is written as nothing only if it has no symbols. -/
theorem sideChars_eq_nil_iff (h : ∀ s ∈ symbols, IsEntry s) :
    sideChars symbols = [] ↔ symbols = [] := by
  constructor
  · intro hnil
    by_contra hne
    obtain ⟨s, hs⟩ := List.exists_mem_of_ne_nil symbols hne
    have hpiece : s.toList <:+: sideChars symbols := infix_join [','] (List.mem_map_of_mem hs)
    rw [hnil, List.infix_nil, String.toList_eq_nil_iff] at hpiece
    exact (h s hs).1 hpiece
  · rintro rfl
    rfl

/-- One side holds at least one symbol, and these are the texts between its commas. -/
theorem readSymbols_eq_ok_iff : readSymbols rule side = .ok symbols ↔
    symbols ≠ [] ∧ (∀ s ∈ symbols, IsEntry s) ∧ side = sideChars symbols := by
  simp only [readSymbols]
  constructor
  · intro h
    split at h
    · next hall =>
      cases h
      refine ⟨by simpa using splitAtCommas_ne_nil side, ?_, ?_⟩
      · intro s hs
        obtain ⟨piece, hpiece, rfl⟩ := List.mem_map.mp hs
        have hne := List.all_eq_true.mp hall piece hpiece
        exact ⟨by simpa using hne, by simpa using not_mem_of_mem_splitAtCommas hpiece⟩
      · rw [sideChars, List.map_map]
        simpa [Function.comp_def] using (join_splitAtCommas side).symm
    · exact nomatch h
  · rintro ⟨hne, hentry, rfl⟩
    have hsplit : splitAtCommas (sideChars symbols) = symbols.map String.toList :=
      splitAtCommas_join (by simpa using hne)
        (List.forall_mem_map.mpr fun s hs => (hentry s hs).2)
    have hempty : "" ∉ symbols := fun hmem => (hentry "" hmem).1 rfl
    simpa [hsplit, Function.comp_def] using hempty

/-- The second side may be missing. -/
theorem readBoth_eq_ok_iff {head daughters : List Char} :
    (do
      let heads ← readSymbols rule head
      let daughters ← if daughters = [] then .ok [] else readSymbols rule daughters
      return ⟨heads, daughters⟩ : Except Fault Sides) = .ok sides ↔
    sides.head ≠ [] ∧ (∀ s ∈ sides.head ++ sides.daughters, IsEntry s) ∧
      head = sideChars sides.head ∧ daughters = sideChars sides.daughters := by
  obtain ⟨heads, symbols⟩ := sides
  simp only [bind_eq_ok_iff, List.forall_mem_append]
  constructor
  · rintro ⟨heads', hheads, h⟩
    obtain ⟨hne, hentry, rfl⟩ := readSymbols_eq_ok_iff.mp hheads
    split at h
    · next hnil =>
      cases h
      exact ⟨hne, ⟨hentry, by simp⟩, rfl, hnil⟩
    · obtain ⟨symbols', hsymbols, heq⟩ := bind_eq_ok_iff.mp h
      obtain ⟨-, hentry', rfl⟩ := readSymbols_eq_ok_iff.mp hsymbols
      cases heq
      exact ⟨hne, ⟨hentry, hentry'⟩, rfl, rfl⟩
  · rintro ⟨hne, ⟨hentry, hentry'⟩, rfl, rfl⟩
    refine ⟨heads, readSymbols_eq_ok_iff.mpr ⟨hne, hentry, rfl⟩, ?_⟩
    split
    · next hnil =>
      obtain rfl := (sideChars_eq_nil_iff hentry').mp hnil
      rfl
    · next hside =>
      have hsymbols := (sideChars_eq_nil_iff hentry').not.mp hside
      exact bind_eq_ok_iff.mpr
        ⟨symbols, readSymbols_eq_ok_iff.mpr ⟨hsymbols, hentry', rfl⟩, rfl⟩

/-- A rule is read exactly if what is left of it without blanks consists of a side with symbols, the
delimiter where it stands first, and another side, which does not hold the delimiter. -/
theorem read_eq_ok_iff : read rule delimiter = .ok sides ↔
    removeBlanks delimiter.toList ≠ [] ∧ sides.head ≠ [] ∧
      (∀ s ∈ sides.head ++ sides.daughters, IsEntry s) ∧
      cut? (removeBlanks delimiter.toList) (removeBlanks rule.toList) =
        some (sideChars sides.head, sideChars sides.daughters) ∧
      ¬removeBlanks delimiter.toList <:+: sideChars sides.daughters := by
  simp only [read, List.isEmpty_iff, ← contains_iff]
  constructor
  · intro h
    split at h
    · exact nomatch h
    next hdelim =>
    split at h
    · exact nomatch h
    next head daughters hcut =>
    split at h
    · exact nomatch h
    next hcontains =>
    split at h
    · exact nomatch h
    obtain ⟨hne, hentry, rfl, rfl⟩ := readBoth_eq_ok_iff.mp h
    exact ⟨hdelim, hne, hentry, hcut, hcontains⟩
  · rintro ⟨hdelim, hne, hentry, hcut, hcontains⟩
    have hhead : sideChars sides.head ≠ [] :=
      (sideChars_eq_nil_iff fun s hs => hentry s (List.mem_append_left _ hs)).not.mpr hne
    rw [if_neg hdelim, hcut]
    simp only [hcontains, hhead, if_false]
    exact readBoth_eq_ok_iff.mpr ⟨hne, hentry, rfl, rfl⟩

end Sides

namespace Production

variable {rule delimiter d : String} {p q : Production} {b : Brackets}

/-- The texts of both sides. -/
def sideTexts (p : Production) : Sides := ⟨texts p.head, texts p.daughters⟩

/-- Productions are the same when their texts are. -/
theorem beq_iff_sideTexts : (q == p) = true ↔ q.sideTexts = p.sideTexts := by
  rw [beq_iff, Symbol.list_beq_iff, Symbol.list_beq_iff, sideTexts, sideTexts, Sides.mk.injEq]
  rfl

/-- Texts are read as symbols under the brackets that are given. -/
theorem readSide_map_text (symbols : List String) (b : Brackets) :
    readSide (.list (symbols.map .text)) (.text b.text) = .ok (symbols.map (Symbol.mk · b)) := by
  have hread : ∀ s : String, Symbol.read (.text s) (.text b.text) = .ok ⟨s, b⟩ := by
    intro s
    rw [Symbol.read, Brackets.read_text]
    rfl
  refine bind_eq_ok_iff.mpr ⟨symbols.map .text, rfl, mapM_eq_ok_iff.mpr ?_⟩
  rw [List.forall₂_map_left_iff, List.forall₂_map_right_iff]
  exact List.forall₂_same.mpr fun s _ => hread s

/-- Sides with a head make a production with these texts. -/
theorem exists_ofSides {sides : Sides} (h : sides.head ≠ []) (b : Brackets) :
    ∃ q, ofSides sides (.text b.text) = .ok q ∧ q.sideTexts = sides := by
  have hheads : sides.head.map (Symbol.mk · b) ≠ [] := by simpa using h
  refine ⟨⟨_, sides.daughters.map (Symbol.mk · b), hheads⟩, ?_, ?_⟩
  · refine bind_eq_ok_iff.mpr ⟨_, readSide_map_text sides.head b, ?_⟩
    rw [dif_pos hheads]
    exact bind_eq_ok_iff.mpr ⟨_, readSide_map_text sides.daughters b, rfl⟩
  · simp [sideTexts, texts, Function.comp_def]

/-- A production equal to `p` is read from a text exactly if the texts of both sides are. -/
theorem exists_ofText_iff : (∃ q, ofText (.text rule) (.text delimiter) (.text b.text) = .ok q ∧
    (q == p) = true) ↔ Sides.read rule delimiter = .ok p.sideTexts := by
  simp only [ofText, bind_eq_ok_iff, beq_iff_sideTexts]
  constructor
  · rintro ⟨q, ⟨sides, hsides, hq⟩, heq⟩
    obtain ⟨q', hq', hsame⟩ := exists_ofSides (Sides.read_eq_ok_iff.mp hsides).2.1 b
    cases hq.symm.trans hq'
    rw [hsides, ← heq, hsame]
  · intro h
    obtain ⟨q, hq, hsame⟩ := exists_ofSides (Sides.read_eq_ok_iff.mp h).2.1 b
    exact ⟨q, ⟨_, h, hq⟩, hsame⟩

/-- What is left of a written production without blanks. -/
theorem removeBlanks_render (p : Production) (d : String) : removeBlanks (p.render d).toList =
    removeBlanks (sideChars (texts p.head)) ++
      (removeBlanks d.toList ++ removeBlanks (sideChars (texts p.daughters))) := by
  have hspace : ∀ cs, removeBlanks (' ' :: cs) = removeBlanks cs := fun _ => rfl
  have hcomma : ",".toList = [','] := rfl
  simp [render, joinStrings, sideChars, removeBlanks_append, hspace, hcomma]

/-- A text that stays as it is when a rule with it is taken apart at its commas, without its
blanks. -/
def IsPlain (s : String) : Prop := s ≠ "" ∧ ∀ c ∈ s.toList, isBlank c = false ∧ c ≠ ','

/-- A text without blanks and commas can stand between commas. -/
theorem IsPlain.isEntry {s : String} (h : IsPlain s) : Sides.IsEntry s :=
  ⟨h.1, fun hmem => (h.2 ',' hmem).2 rfl⟩

/-- There is no blank to remove from a side of plain texts. -/
theorem removeBlanks_sideChars {symbols : List String} (h : ∀ s ∈ symbols, IsPlain s) :
    removeBlanks (sideChars symbols) = sideChars symbols := by
  have hsame : ∀ cs ∈ symbols.map String.toList, removeBlanks cs = cs := by
    refine List.forall_mem_map.mpr fun s hs => List.filter_eq_self.mpr fun c hc => ?_
    simpa using ((h s hs).2 c hc).1
  rw [sideChars, removeBlanks_join, List.map_congr_left hsame, List.map_id']
  rfl

/-- A text without blanks, commas and the delimiter, which is not empty. -/
def IsReadable (delim : List Char) (s : String) : Prop :=
  s ≠ "" ∧ (∀ c ∈ s.toList, isBlank c = false ∧ c ≠ ',') ∧ ¬delim <:+: s.toList

instance (delim : List Char) (s : String) : Decidable (IsReadable delim s) :=
  decidable_of_iff (s ≠ "" ∧ (s.toList.all fun c => !isBlank c && c != ',') = true ∧
    ¬delim <:+: s.toList) (by simp [IsReadable])

/-- A text is read back if it is plain and does not hold the delimiter. -/
theorem isReadable_iff {delim : List Char} {s : String} :
    IsReadable delim s ↔ IsPlain s ∧ ¬delim <:+: s.toList := and_assoc.symm

/-- A side of readable symbols stays as it is when blanks are removed, and does not hold the
delimiter. -/
theorem sideChars_of_isReadable {delim : List Char} {symbols : List String} (hne : delim ≠ [])
    (hcomma : ',' ∉ delim) (h : ∀ s ∈ symbols, IsReadable delim s) :
    removeBlanks (sideChars symbols) = sideChars symbols ∧ ¬delim <:+: sideChars symbols := by
  constructor
  · exact removeBlanks_sideChars fun s hs => (isReadable_iff.mp (h s hs)).1
  · exact not_infix_join hcomma hne (List.forall_mem_map.mpr fun s hs => (h s hs).2.2)

/-- A side of texts between commas consists of readable symbols if no blank is in it and the
delimiter is not either. -/
theorem isReadable_of_sideChars {delim : List Char} {symbols : List String}
    (hentry : ∀ s ∈ symbols, Sides.IsEntry s) (hblank : ∀ c ∈ sideChars symbols, isBlank c = false)
    (hdelim : ¬delim <:+: sideChars symbols) : ∀ s ∈ symbols, IsReadable delim s := by
  intro s hs
  have hpiece : s.toList <:+: sideChars symbols := infix_join [','] (List.mem_map_of_mem hs)
  refine ⟨(hentry s hs).1, fun c hc => ⟨hblank c (hpiece.subset hc), ?_⟩,
    fun hpart => hdelim (hpart.trans hpiece)⟩
  rintro rfl
  exact (hentry s hs).2 hc

/-- A production is read back from its own text exactly if every symbol is readable. -/
theorem read_render_iff (p : Production) (d : String) (b : Brackets)
    (hne : removeBlanks d.toList ≠ []) (hcomma : ',' ∉ removeBlanks d.toList)
    (hborder : IsUnbordered (removeBlanks d.toList)) :
    (∃ q, ofText (.text (p.render d)) (.text d) (.text b.text) = .ok q ∧ (q == p) = true) ↔
      ∀ s ∈ p.symbols, IsReadable (removeBlanks d.toList) s.text := by
  have hsymbols : (∀ s ∈ p.symbols, IsReadable (removeBlanks d.toList) s.text) ↔
      ∀ s ∈ texts p.head ++ texts p.daughters, IsReadable (removeBlanks d.toList) s := by
    rw [texts, texts, ← List.map_append, List.forall_mem_map]
    rfl
  rw [exists_ofText_iff, Sides.read_eq_ok_iff, hsymbols]
  constructor
  · rintro ⟨-, -, hentry, hcut, hdaughters⟩
    -- Both sides are parts of a text without blanks.
    have hvisible : ∀ c ∈ sideChars (texts p.head) ++ removeBlanks d.toList ++
        sideChars (texts p.daughters), isBlank c = false := by
      intro c hc
      have hsplit : removeBlanks (p.render d).toList = sideChars (texts p.head) ++
          removeBlanks d.toList ++ sideChars (texts p.daughters) := eq_of_cut? hcut
      rw [← hsplit] at hc
      exact isBlank_of_mem_removeBlanks hc
    have hentries := List.forall_mem_append.mp hentry
    have hblanks := List.forall_mem_append.mp hvisible
    exact List.forall_mem_append.mpr
      ⟨isReadable_of_sideChars hentries.1 (List.forall_mem_append.mp hblanks.1).1
        (not_infix_of_cut? hne hcut), isReadable_of_sideChars hentries.2 hblanks.2 hdaughters⟩
  · intro h
    obtain ⟨hheads, hdaughters⟩ := List.forall_mem_append.mp h
    obtain ⟨hhead, hfirst⟩ := sideChars_of_isReadable hne hcomma hheads
    obtain ⟨hdaughter, hlast⟩ := sideChars_of_isReadable hne hcomma hdaughters
    have hentry : ∀ s ∈ texts p.head ++ texts p.daughters, Sides.IsEntry s :=
      fun s hs => ⟨(h s hs).1, fun hmem => ((h s hs).2.1 ',' hmem).2 rfl⟩
    have hcut := cut?_append hborder hfirst (sideChars (texts p.daughters))
    rw [removeBlanks_render, hhead, hdaughter]
    exact ⟨hne, by simpa [texts, sideTexts] using p.head_ne_nil, hentry, hcut, hlast⟩

/-- With the usual delimiter, a symbol may be the start of the delimiter, but not hold all of it. -/
theorem read_render_arrow :
    removeBlanks arrow.toList ≠ [] ∧ ',' ∉ removeBlanks arrow.toList ∧
    IsUnbordered (removeBlanks arrow.toList) ∧
    ∃ p p' : Production, texts p.symbols = ["-", "->", "[]"] ∧ texts p'.symbols = ["A", "x-->y"] ∧
      (∃ q, ofText (.text (p.render arrow)) (.text arrow) (.text Brackets.square.text) = .ok q ∧
        (q == p) = true) ∧
      ¬∃ q, ofText (.text (p'.render arrow)) (.text arrow) (.text Brackets.square.text) = .ok q ∧
        (q == p') = true := by
  have hne : removeBlanks arrow.toList ≠ [] := by decide
  have hcomma : ',' ∉ removeBlanks arrow.toList := by decide
  have hborder : IsUnbordered (removeBlanks arrow.toList) := by decide
  let p : Production := ⟨[⟨"-", .square⟩], [⟨"->", .square⟩, ⟨"[]", .square⟩], by simp⟩
  let p' : Production := ⟨[⟨"A", .square⟩], [⟨"x-->y", .square⟩], by simp⟩
  refine ⟨hne, hcomma, hborder, p, p', rfl, rfl,
    (read_render_iff p arrow .square hne hcomma hborder).mpr (by decide), fun h => ?_⟩
  have hreadable := (read_render_iff p' arrow .square hne hcomma hborder).mp h
  exact (hreadable ⟨"x-->y", .square⟩ (by simp [p', symbols])).2.2 ⟨['x'], ['y'], rfl⟩

end Production

end PhraseStructure
