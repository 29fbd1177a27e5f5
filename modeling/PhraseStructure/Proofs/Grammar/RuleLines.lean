import PhraseStructure.Proofs.Grammar.Iteration
import PhraseStructure.Proofs.Grammar.RoundTrip

/-!
# Rules on lines

A grammar is made of a text if every line that is not blank is a rule and a start symbol is found
(`make_text_iff`). So texts whose lines differ in blanks only make the same grammar
(`make_text_congr`), and a line that holds two rules makes none (`Sides.not_read_append`). Whatever
is wrong about a text of rules and the start symbol is a bad value (`kind_of_make_text`), and what
is made of a text can be iterated over (`exists_productions_of_make_text`).
-/

namespace PhraseStructure

open Text

variable {rule rule' d : String} {xs ys : List Char} {sides : Sides} {fault : Fault}
  {brackets : Datum} {p : Production}

section Faults

/-- A text that cannot be read as a symbol is of the right kind, but not acceptable. -/
theorem kind_of_readSymbol {text : String} (h : Symbol.read (.text text) brackets = .error fault) :
    fault.kind = .badValue := by
  rcases bind_eq_error_iff.mp h with hread | ⟨b, -, hb⟩
  · rw [(Brackets.eq_of_read_error hread).1]
    rfl
  · cases hb

/-- The symbols of a side are missing something, not of the wrong kind. -/
theorem Sides.kind_of_readSymbols (h : readSymbols rule xs = .error fault) :
    fault.kind = .badValue := by
  unfold readSymbols at h
  dsimp only at h
  split at h
  · cases h
  · cases h
    rfl

/-- Whatever is wrong about the text of a rule is a bad value. -/
theorem Sides.kind_of_read (h : read rule d = .error fault) : fault.kind = .badValue := by
  unfold read at h
  dsimp only at h
  split at h
  · cases h
    rfl
  split at h
  · cases h
    rfl
  split at h
  · cases h
    rfl
  split at h
  · cases h
    rfl
  rcases bind_eq_error_iff.mp h with hheads | ⟨heads, -, h⟩
  · exact kind_of_readSymbols hheads
  split at h
  · cases h
  · rcases bind_eq_error_iff.mp h with hdaughters | ⟨daughters, -, h⟩
    · exact kind_of_readSymbols hdaughters
    · cases h

/-- A side of texts that cannot be read is of the right kind, but not acceptable. -/
theorem Production.kind_of_readSide {texts : List String}
    (h : readSide (.list (texts.map .text)) brackets = .error fault) : fault.kind = .badValue := by
  rcases bind_eq_error_iff.mp h with helements | ⟨elements, helements, hread⟩
  · cases helements
  · cases helements
    obtain ⟨element, helement, hfault⟩ := exists_of_mapM_eq_error hread
    obtain ⟨text, -, rfl⟩ := List.mem_map.mp helement
    exact kind_of_readSymbol hfault

/-- The text of a rule that cannot be read is of the right kind, but not acceptable. -/
theorem Production.kind_of_ofText (h : ofText (.text rule) (.text d) brackets = .error fault) :
    fault.kind = .badValue := by
  rcases bind_eq_error_iff.mp h with hsides | ⟨sides, -, h⟩
  · exact Sides.kind_of_read hsides
  rcases bind_eq_error_iff.mp h with hhead | ⟨heads, -, h⟩
  · exact kind_of_readSide hhead
  split at h
  · rcases bind_eq_error_iff.mp h with hdaughters | ⟨daughters, -, h⟩
    · exact kind_of_readSide hdaughters
    · cases h
  · cases h
    rfl

end Faults

section Rules

/-- A production is read from text under valid brackets only. -/
theorem Production.exists_of_ofText (h : ofText (.text rule) (.text d) brackets = .ok p) :
    ∃ b : Brackets, brackets = .text b.text := by
  obtain ⟨sides, -, h⟩ := bind_eq_ok_iff.mp h
  obtain ⟨heads, hheads, h⟩ := bind_eq_ok_iff.mp h
  split at h
  · next hne =>
    obtain ⟨elements, helements, hread⟩ := bind_eq_ok_iff.mp hheads
    cases helements
    obtain ⟨s, hs⟩ := List.exists_mem_of_ne_nil heads hne
    obtain ⟨element, helement, hsymbol⟩ := exists_of_mem_mapM hread hs
    obtain ⟨text, -, rfl⟩ := List.mem_map.mp helement
    obtain ⟨b, hb, -⟩ := bind_eq_ok_iff.mp hsymbol
    exact ⟨b, Brackets.read_eq_ok_iff.mp hb⟩
  · cases h

/-- What is read depends on what is left without blanks. -/
theorem Production.ofText_congr (hsame : removeBlanks rule'.toList = removeBlanks rule.toList) :
    ofText (.text rule) (.text d) brackets = .ok p ↔
      ofText (.text rule') (.text d) brackets = .ok p := by
  rw [ofText, ofText, bind_eq_ok_iff, bind_eq_ok_iff]
  refine exists_congr fun sides => and_congr_left fun _ => ?_
  exact ⟨fun h => Sides.read_congr h hsame, fun h => Sides.read_congr h hsame.symm⟩

/-- A text is no rule if it can be cut in two so that the delimiter occurs on both sides. -/
theorem Sides.not_read_append (hrule : removeBlanks rule.toList = xs ++ ys)
    (hxs : removeBlanks d.toList <:+: xs) (hys : removeBlanks d.toList <:+: ys) :
    read rule d ≠ .ok sides := by
  intro h
  obtain ⟨-, -, -, hcut, hnone⟩ := read_eq_ok_iff.mp h
  cases hfront : cut? (removeBlanks d.toList) xs with
  | none => exact cut?_eq_none_iff.mp hfront hxs
  | some parts =>
    obtain ⟨before, after⟩ := parts
    rw [hrule, cut?_append_of_eq_some hfront ys] at hcut
    obtain ⟨-, hafter⟩ := Prod.mk.inj (Option.some.inj hcut)
    exact hnone (hafter ▸ hys.trans (List.suffix_append after ys).isInfix)

/-- The delimiter occurs in a rule. -/
theorem Sides.infix_of_read (h : read rule d = .ok sides) :
    removeBlanks d.toList <:+: removeBlanks rule.toList := by
  obtain ⟨-, -, -, hcut, -⟩ := read_eq_ok_iff.mp h
  rw [eq_of_cut? hcut]
  exact List.infix_append _ _ _

end Rules

namespace Grammar

variable {g : Grammar} {conventions : Conventions} {t t' : String} {start : Datum}
  {ps : List Production} {readings : List (Except Fault Production)}

section Making

/-- Texts with the same rules make the same grammar. -/
theorem make_text_congr (hsep : conventions.lineSeparator = .text "\n")
    (h : ∀ ps : List Production, lineReadings conventions t = ps.map .ok ↔
      lineReadings conventions t' = ps.map .ok) :
    (make conventions (.given (.text t)) start).result = .ok g ↔
      (make conventions (.given (.text t')) start).result = .ok g := by
  rw [make_text_iff hsep, make_text_iff hsep]
  exact exists_congr fun ps => by rw [h ps]

/-- Rules that differ in blanks only are read as the same productions. -/
theorem lineReadings_congr (hdelimiter : conventions.delimiter = .text d)
    (h : List.Forall₂ (fun line line' : String =>
      removeBlanks line'.toList = removeBlanks line.toList) (ruleLines t) (ruleLines t')) :
    lineReadings conventions t = ps.map .ok ↔ lineReadings conventions t' = ps.map .ok := by
  rw [lineReadings, lineReadings]
  generalize ruleLines t = lines at h ⊢
  generalize ruleLines t' = lines' at h ⊢
  induction h generalizing ps with
  | nil => rfl
  | cons hsame _ ih =>
    cases ps with
    | nil => simp
    | cons p ps =>
      simp only [List.map_cons, List.cons.injEq]
      refine and_congr ?_ ih
      rw [readRule, readRule, empty, hdelimiter]
      exact Production.ofText_congr hsame

end Making

section Checking

/-- Where the addition of readings ends, one of them is a fault. -/
theorem mem_of_addReadings (h : (g.addReadings readings).result = .error fault) :
    .error fault ∈ readings := by
  induction readings generalizing g with
  | nil => cases h
  | cons reading readings ih =>
    cases reading with
    | error fault' =>
      cases h
      exact List.mem_cons_self
    | ok p => exact List.mem_cons_of_mem _ (ih h)

/-- A start symbol that is given as a text is of the right kind, and at worst not acceptable. -/
theorem kind_of_chooseStart (hheads : [] ∉ g.additions)
    (hstart : start = .null ∨ ∃ s, start = .text s)
    (h : g.chooseStart start = .error fault) : fault.kind = .badValue := by
  rcases hstart with rfl | ⟨s, rfl⟩
  · rcases bind_eq_error_iff.mp h with hdefault | ⟨_, -, h⟩
    · exact absurd (List.mem_of_mem_head? (eq_of_defaultStart_error hdefault).2) hheads
    · cases h
  · rcases bind_eq_error_iff.mp h with hset | ⟨_, -, h⟩
    · unfold setStart at hset
      split at hset
      · next hread =>
        cases hset
        exact kind_of_readSymbol hread
      · split at hset
        · cases hset
        · cases hset
          rfl
    · cases h

/-- Whatever is wrong about a text of rules and about the start symbol is a bad value. -/
theorem kind_of_make_text (hsep : conventions.lineSeparator = .text "\n")
    (hdelimiter : conventions.delimiter = .text d) (hstart : start = .null ∨ ∃ s, start = .text s)
    (h : (make conventions (.given (.text t)) start).result = .error fault) :
    fault.kind = .badValue := by
  rw [result_make] at h
  rcases bind_eq_error_iff.mp h with hcollect | ⟨_, -, hchoose⟩
  · rw [collect_text hsep] at hcollect
    obtain ⟨line, -, hline⟩ := List.mem_map.mp (mem_of_addReadings hcollect)
    rw [readRule, empty, hdelimiter] at hline
    exact Production.kind_of_ofText hline
  · refine kind_of_chooseStart ?_ hstart hchoose
    exact heads_ne_nil_of_collect conventions fun entries h => by cases h

/-- What is made of a text can be iterated over. -/
theorem exists_productions_of_make_text (hsep : conventions.lineSeparator = .text "\n")
    (hdelimiter : conventions.delimiter = .text d)
    (h : (make conventions (.given (.text t)) start).result = .ok g) :
    ∃ ps, g.productions = .ok ps := by
  obtain ⟨⟨L, hL⟩, hconventions⟩ := exists_make h
  rw [hL.exists_productions_iff]
  obtain ⟨ps, hread, -⟩ := (make_text_iff hsep).mp h
  cases hlines : ps with
  | nil =>
    obtain ⟨s, rfl⟩ := eq_of_make h
    refine .inl ?_
    have hnone : (collect conventions (.given (.text t))).grammar.buckets = [] := by
      rw [collect_text hsep, hread, hlines]
      rfl
    rw [size, hnone]
    rfl
  | cons p ps' =>
    refine .inr ((isUsable_iff_of_make h).mpr ⟨?_, ?_⟩)
    · have hmem : Except.ok p ∈ lineReadings conventions t := by
        rw [hread, hlines]
        exact List.mem_cons_self
      obtain ⟨line, -, hline⟩ := List.mem_map.mp hmem
      rw [readRule, empty, hdelimiter] at hline
      exact Production.exists_of_ofText hline
    · rintro ⟨entries, hentries, -⟩
      cases hentries

end Checking

end Grammar

end PhraseStructure
