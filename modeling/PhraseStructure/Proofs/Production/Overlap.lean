import PhraseStructure.Proofs.Production.Reprint

/-!
# Rules that are cut too early

A delimiter may have a border, as `==` has. A production is then not always read back from its own
text, although no symbol holds the delimiter: where the last head symbol ends as the delimiter
starts, the printed delimiter is not the first one, and the rule is cut before it
(`Production.read_render_iff_standsFirst`).
-/

namespace PhraseStructure

open Text

namespace Production

/-- The text of a production is read as its two sides exactly if these can be told apart at commas
and the printed delimiter is the only one. -/
theorem read_render_eq_ok_iff (p : Production) (d : String) :
    Sides.read (p.render d) d = .ok p.sideTexts ↔
      removeBlanks d.toList ≠ [] ∧ (∀ s ∈ p.symbols, IsPlain s.text) ∧
        StandsFirst (removeBlanks d.toList) (sideChars (texts p.head)) ∧
        ¬removeBlanks d.toList <:+: sideChars (texts p.daughters) := by
  constructor
  · intro h
    obtain ⟨hne, -, -, hcut, hdaughters⟩ := Sides.read_eq_ok_iff.mp h
    rw [removeBlanks_of_read h, List.append_assoc] at hcut
    exact ⟨hne, fun s hs => (isReadable_iff.mp (isReadable_of_read h s hs)).1,
      (cut?_append_iff hne _).mp hcut, hdaughters⟩
  · rintro ⟨hne, hplain, hfirst, hdaughters⟩
    have hheads : ∀ s ∈ texts p.head, IsPlain s :=
      List.forall_mem_map.mpr (List.forall_mem_append.mp hplain).1
    have hothers : ∀ s ∈ texts p.daughters, IsPlain s :=
      List.forall_mem_map.mpr (List.forall_mem_append.mp hplain).2
    have hcut := (cut?_append_iff hne (sideChars (texts p.daughters))).mpr hfirst
    have hentry : ∀ s ∈ texts p.head ++ texts p.daughters, Sides.IsEntry s :=
      List.forall_mem_append.mpr
        ⟨fun s hs => (hheads s hs).isEntry, fun s hs => (hothers s hs).isEntry⟩
    rw [Sides.read_eq_ok_iff, removeBlanks_render, removeBlanks_sideChars hheads,
      removeBlanks_sideChars hothers]
    exact ⟨hne, by simpa [texts, sideTexts] using p.head_ne_nil, hentry, hcut, hdaughters⟩

/-- Under a delimiter without a border, readable symbols are enough. -/
theorem read_render_of_isReadable {p : Production} {d : String} (hne : removeBlanks d.toList ≠ [])
    (hcomma : ',' ∉ removeBlanks d.toList) (hborder : IsUnbordered (removeBlanks d.toList))
    (h : ∀ s ∈ p.symbols, IsReadable (removeBlanks d.toList) s.text) :
    Sides.read (p.render d) d = .ok p.sideTexts := by
  have hside : ∀ symbols ⊆ p.symbols, ¬removeBlanks d.toList <:+: sideChars (texts symbols) := by
    intro symbols hsub
    exact (sideChars_of_isReadable hne hcomma
      (List.forall_mem_map.mpr fun s hs => h s (hsub hs))).2
  exact (read_render_eq_ok_iff p d).mpr ⟨hne, fun s hs => (isReadable_iff.mp (h s hs)).1,
    hborder.standsFirst (hside p.head (List.subset_append_left _ _)),
    hside p.daughters (List.subset_append_right _ _)⟩

/-- A delimiter without a comma stands first behind a side exactly if it does behind the last
symbol. -/
theorem standsFirst_head_iff {delim : List Char} {p : Production} (hne : delim ≠ [])
    (hcomma : ',' ∉ delim) (h : ∀ s ∈ p.symbols, ¬delim <:+: s.text.toList) :
    StandsFirst delim (sideChars (texts p.head)) ↔
      StandsFirst delim (p.head.getLast p.head_ne_nil).text.toList := by
  have hpieces : (texts p.head).map String.toList =
      (p.head.dropLast.map fun s => s.text.toList) ++
        [(p.head.getLast p.head_ne_nil).text.toList] := by
    conv_lhs => rw [← List.dropLast_concat_getLast p.head_ne_nil]
    simp [texts, Function.comp_def]
  rw [sideChars, hpieces]
  refine standsFirst_join_concat hne hcomma (List.forall_mem_map.mpr fun s hs => h s ?_)
  exact List.mem_append_left _ (List.mem_of_mem_dropLast hs)

/-- A production is read back from its own text exactly if no symbol is empty or holds a blank or a
comma, and the printed delimiter is the first and the only one in the text. Where no symbol holds
the delimiter, this depends on the end of the last head symbol. -/
theorem read_render_iff_standsFirst (p : Production) (d : String) (b : Brackets) :
    ((∃ q, ofText (.text (p.render d)) (.text d) (.text b.text) = .ok q ∧ (q == p) = true) ↔
      removeBlanks d.toList ≠ [] ∧ (∀ s ∈ p.symbols, IsPlain s.text) ∧
        StandsFirst (removeBlanks d.toList) (sideChars (texts p.head)) ∧
        ¬removeBlanks d.toList <:+: sideChars (texts p.daughters)) ∧
    (removeBlanks d.toList ≠ [] → ',' ∉ removeBlanks d.toList →
      (∀ s ∈ p.symbols, IsReadable (removeBlanks d.toList) s.text) →
      ((∃ q, ofText (.text (p.render d)) (.text d) (.text b.text) = .ok q ∧ (q == p) = true) ↔
        StandsFirst (removeBlanks d.toList) (p.head.getLast p.head_ne_nil).text.toList)) := by
  rw [exists_ofText_iff, read_render_eq_ok_iff]
  refine ⟨Iff.rfl, fun hne hcomma hreadable => ?_⟩
  have hplain : ∀ s ∈ p.symbols, IsPlain s.text :=
    fun s hs => (isReadable_iff.mp (hreadable s hs)).1
  have hwithout : ∀ s ∈ p.symbols, ¬removeBlanks d.toList <:+: s.text.toList :=
    fun s hs => (isReadable_iff.mp (hreadable s hs)).2
  have hdaughters : ¬removeBlanks d.toList <:+: sideChars (texts p.daughters) := by
    refine (sideChars_of_isReadable hne hcomma ?_).2
    intro s hs
    obtain ⟨symbol, hsymbol, rfl⟩ := List.mem_map.mp hs
    exact hreadable symbol (List.mem_append_right _ hsymbol)
  rw [← standsFirst_head_iff hne hcomma hwithout]
  constructor
  · rintro ⟨-, -, hfirst, -⟩
    exact hfirst
  · intro hfirst
    exact ⟨hne, hplain, hfirst, hdaughters⟩

/-- Two heads under the delimiter `==`: the one that ends like the delimiter is cut elsewhere. -/
theorem read_render_iff_standsFirst_border :
    ∃ p p' : Production, texts p.symbols = ["=A", "B", "=C"] ∧ texts p'.symbols = ["A=", "B"] ∧
      (∃ q, ofText (.text (p.render "==")) (.text "==") (.text Brackets.square.text) = .ok q ∧
        (q == p) = true) ∧
      ¬∃ q, ofText (.text (p'.render "==")) (.text "==") (.text Brackets.square.text) = .ok q ∧
        (q == p') = true := by
  have hne : removeBlanks "==".toList ≠ [] := by decide
  have hcomma : ',' ∉ removeBlanks "==".toList := by decide
  let p : Production := ⟨[⟨"=A", .square⟩, ⟨"B", .square⟩], [⟨"=C", .square⟩], by simp⟩
  let p' : Production := ⟨[⟨"A=", .square⟩], [⟨"B", .square⟩], by simp⟩
  refine ⟨p, p', rfl, rfl, ?_, ?_⟩
  · exact ((read_render_iff_standsFirst p "==" .square).2 hne hcomma (by decide)).mpr (by decide)
  · intro hread
    have hfirst := ((read_render_iff_standsFirst p' "==" .square).2 hne hcomma (by decide)).mp hread
    exact absurd hfirst (by decide)

/-- It is not enough that no symbol is empty or holds a blank, a comma or the delimiter: the rule
`A= == B` is read under the delimiter `==`, but as another one. -/
theorem not_read_render_of_isReadable :
    ¬∀ (p : Production) (d : String) (b : Brackets), removeBlanks d.toList ≠ [] →
      (∀ s ∈ p.symbols, IsReadable d.toList s.text ∧ IsReadable (removeBlanks d.toList) s.text) →
      ∃ q, ofText (.text (p.render d)) (.text d) (.text b.text) = .ok q ∧ (q == p) = true := by
  intro h
  let p : Production := ⟨[⟨"A=", .square⟩], [⟨"B", .square⟩], by simp⟩
  have hentry : ∀ s ∈ ["A", "=B"], Sides.IsEntry s := by simp [Sides.IsEntry]
  have hread : Sides.read (p.render "==") "==" = .ok ⟨["A"], ["=B"]⟩ :=
    Sides.read_eq_ok_iff.mpr ⟨by decide, by decide, hentry, by decide, by decide⟩
  have hsame := exists_ofText_iff.mp (h p "==" .square (by decide) (by decide))
  rw [hread] at hsame
  exact absurd (Except.ok.inj hsame) (by decide)

end Production

end PhraseStructure
