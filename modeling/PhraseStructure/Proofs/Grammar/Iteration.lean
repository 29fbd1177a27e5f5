import PhraseStructure.Grammar.Class
import PhraseStructure.Proofs.Grammar.Failure

/-!
# Iterating over a grammar

The productions of a grammar are made anew when they are read, under the brackets of the grammar,
and its classes are decided by reading them. All of them can be read exactly if the brackets are
valid and every head has a symbol, or if there are none (`Represents.exists_productions_iff`), and
then every class is decided (`belongs_eq`). No operation gives this up
(`isUsable_of_reachableFrom`): only a table of heads that is taken over unchecked, or brackets that
are none, bring a grammar about that cannot be iterated over (`productions_and_classes`).
-/

namespace PhraseStructure

/-- A production is made under valid brackets only, and it carries these. -/
theorem Production.rewrap_eq_ok_iff {head daughters : List Symbol} {brackets : Datum}
    {p : Production} : rewrap head daughters brackets = .ok p ↔
      ∃ b : Brackets, brackets = .text b.text ∧ p.head = head.map (rebracketed · b) ∧
        p.daughters = daughters.map (rebracketed · b) := by
  constructor
  · intro h
    unfold rewrap at h
    split at h
    · obtain ⟨b, hb, hp⟩ := bind_eq_ok_iff.mp h
      cases hp
      exact ⟨b, Brackets.read_eq_ok_iff.mp hb, rfl, rfl⟩
    · cases h
  · rintro ⟨b, rfl, hhead, hdaughters⟩
    have hne : head ≠ [] := by
      rintro rfl
      exact p.head_ne_nil hhead
    obtain ⟨pHead, pDaughters, hp⟩ := p
    obtain rfl : pHead = head.map (rebracketed · b) := hhead
    obtain rfl : pDaughters = daughters.map (rebracketed · b) := hdaughters
    rw [rewrap, dif_pos hne, Brackets.read_text]
    rfl

/-- Readings that succeed are looked at one by one up to the first that decides. -/
theorem allReadings_map_ok (holds : Production → Bool) (ps : List Production) :
    allReadings holds (ps.map .ok) = .ok (ps.all holds) := by
  induction ps with
  | nil => rfl
  | cons p ps ih =>
    rw [List.map_cons, allReadings, List.all_cons]
    by_cases hp : holds p = true
    · rw [if_pos hp, ih, hp, Bool.true_and]
    · rw [if_neg hp, Bool.eq_false_iff.mpr hp, Bool.false_and]

/-- If all productions can be read, they are tested one after another until one passes. -/
theorem anyReading_map_ok (holds : Production → Bool) (ps : List Production) :
    anyReading holds (ps.map .ok) = .ok (ps.any holds) := by
  induction ps with
  | nil => rfl
  | cons p ps ih =>
    rw [List.map_cons, anyReading, List.any_cons]
    by_cases hp : holds p = true
    · rw [if_pos hp, hp, Bool.true_or]
    · rw [if_neg hp, ih, Bool.eq_false_iff.mpr hp, Bool.false_or]

/-- The rules are a table in which a head without symbols has something under it. -/
def Rules.HasEmptyHead (rules : Rules) : Prop :=
  ∃ entries, rules = .given (.table entries) ∧
    ∃ entry ∈ entries, entry.2.isVoid = false ∧ Production.sideElements entry.1 = .ok []

namespace Grammar

variable {g g' : Grammar} {L : List (List Symbol × List Symbol)} {ps : List Production}
  {conventions : Conventions} {rules : Rules} {start : Datum}

/-- Whether productions make up a grammar of a class. -/
def Class.holds (ps : List Production) : Class → Bool
  | contextFree => ps.all Production.isContextFree
  | leftRegular => ps.all Production.isLeftRegular
  | rightRegular => ps.all Production.isRightRegular
  | regular => ps.all Production.isLeftRegular || ps.all Production.isRightRegular
  | strictlyRegular => ps.all Production.isLeftRegular != ps.all Production.isRightRegular
  | linear => ps.all fun p => p.isLeftRegular || p.isRightRegular
  | chomskyNormal => ps.all Production.isChomskyNormal
  | greibachNormal => ps.all Production.isGreibachNormal
  | leftRecursive => ps.any Production.isLeftRecursive
  | cyclic => ps.any Production.isCyclic

section Classes

/-- Every class of a grammar that can be iterated over is decided by its productions. -/
theorem belongs_eq (h : g.productions = .ok ps) (c : Class) : g.belongs c = .ok (c.holds ps) := by
  have hreadings : g.readings = ps.map .ok := mapM_id_eq_ok_iff.mp h
  have hleft : g.isLeftRegular = .ok (ps.all Production.isLeftRegular) := by
    rw [isLeftRegular, hreadings, allReadings_map_ok]
  have hright : g.isRightRegular = .ok (ps.all Production.isRightRegular) := by
    rw [isRightRegular, hreadings, allReadings_map_ok]
  cases c with
  | contextFree => rw [belongs, isContextFree, hreadings, allReadings_map_ok, Class.holds]
  | leftRegular => rw [belongs, hleft, Class.holds]
  | rightRegular => rw [belongs, hright, Class.holds]
  | regular =>
    rw [belongs, isRegular, hleft, hright, Class.holds]
    cases ps.all Production.isLeftRegular <;> rfl
  | strictlyRegular =>
    rw [belongs, isStrictlyRegular, hleft, hright, Class.holds]
    rfl
  | linear => rw [belongs, isLinear, hreadings, allReadings_map_ok, Class.holds]
  | chomskyNormal => rw [belongs, isChomskyNormal, hreadings, allReadings_map_ok, Class.holds]
  | greibachNormal => rw [belongs, isGreibachNormal, hreadings, allReadings_map_ok, Class.holds]
  | leftRecursive => rw [belongs, isLeftRecursive, hreadings, anyReading_map_ok, Class.holds]
  | cyclic => rw [belongs, isCyclic, hreadings, anyReading_map_ok, Class.holds]

/-- A grammar whose productions can all be read is classified by them, class by class. -/
theorem classify_eq (h : g.productions = .ok ps) :
    g.classify = .ok (Class.all.map fun c => (c, c.holds ps)) := by
  rw [classify, mapM_eq_ok_iff, List.forall₂_map_right_iff, List.forall₂_same]
  intro c _
  rw [belongs_eq h c]
  rfl

end Classes

section Reading

/-- A grammar can be iterated over if each of its productions can be read. -/
theorem exists_productions_iff_forall : (∃ ps, g.productions = .ok ps) ↔
    ∀ pair ∈ g.pairs, ∃ p, Production.rewrap pair.1 pair.2 g.conventions.brackets = .ok p := by
  constructor
  · rintro ⟨ps, hps⟩ pair hpair
    have hmem := List.mem_map_of_mem (f := fun e : List Symbol × List Symbol =>
      Production.rewrap e.1 e.2 g.conventions.brackets) hpair
    have hreadings : g.readings = ps.map .ok := mapM_id_eq_ok_iff.mp hps
    rw [readings] at hreadings
    rw [hreadings] at hmem
    obtain ⟨p, -, hp⟩ := List.mem_map.mp hmem
    exact ⟨p, hp.symm⟩
  · intro h
    obtain ⟨ps, hps⟩ := exists_map_eq_ok h
    exact ⟨ps, mapM_id_eq_ok_iff.mpr hps⟩

/-- Every head that was added is the head of a production that is stored. -/
theorem Represents.exists_mem_pairs (h : Represents g L) {head : List Symbol}
    (hhead : head ∈ g.additions) : ∃ pair ∈ g.pairs, (pair.1 == head) = true := by
  rw [h.additions_eq] at hhead
  obtain ⟨e, he, rfl⟩ := List.mem_map.mp hhead
  obtain ⟨bucket, hbucket, hsame⟩ := h.hasHead_iff.mpr ⟨e, he, BEq.rfl⟩
  obtain ⟨d, hd⟩ := List.exists_mem_of_ne_nil _ (h.noneEmpty bucket hbucket)
  exact ⟨(bucket.1, d), List.mem_flatMap.mpr ⟨bucket, hbucket, List.mem_map_of_mem hd⟩, hsame⟩

/-- A grammar can be iterated over exactly if there is nothing in it, or if its brackets are valid
and its heads have symbols. -/
theorem Represents.exists_productions_iff (h : Represents g L) :
    (∃ ps, g.productions = .ok ps) ↔ g.size = 0 ∨ g.IsUsable := by
  have hsize : g.size = 0 ↔ g.pairs = [] := by
    rw [size, ← length_pairsIn, List.length_eq_zero_iff]
    rfl
  constructor
  · intro hps
    have hread := exists_productions_iff_forall.mp hps
    rw [hsize, or_iff_not_imp_left]
    intro hne
    constructor
    · obtain ⟨pair, hpair⟩ := List.exists_mem_of_ne_nil _ hne
      obtain ⟨p, hp⟩ := hread pair hpair
      obtain ⟨b, hb, -⟩ := Production.rewrap_eq_ok_iff.mp hp
      exact ⟨b, hb⟩
    · intro hnil
      obtain ⟨pair, hpair, hsame⟩ := h.exists_mem_pairs hnil
      obtain ⟨p, hp⟩ := hread pair hpair
      obtain ⟨b, -, hhead, -⟩ := Production.rewrap_eq_ok_iff.mp hp
      have hempty : pair.1 = [] := by simpa using hsame
      exact p.head_ne_nil (by rw [hhead, hempty, List.map_nil])
  · rintro (hnone | husable)
    · rw [exists_productions_iff_forall, hsize.mp hnone]
      simp
    · exact h.exists_productions husable

end Reading

section Keeping

/-- No operation makes a grammar unusable. -/
theorem isUsable_of_reachableFrom {made : Grammar} (hmade : made.IsSound)
    (h : ReachableFrom (· = made) g) : g.IsUsable := by
  have hsound : g.IsSound := by
    induction h with
    | initial hsame => exact hsame ▸ hmade
    | step _ hstep ih => exact hstep.isSound ih
  exact hsound.usable

/-- Rules that are no table give a symbol to every head. -/
theorem heads_ne_nil_of_collect (conventions : Conventions)
    (hrules : ∀ entries, rules ≠ .given (.table entries)) :
    [] ∉ (collect conventions rules).grammar.additions := by
  unfold collect
  split
  · simp [empty]
  · next entries => exact absurd rfl (hrules entries)
  · obtain ⟨ps, hps⟩ := exists_extend (empty conventions) rules
    rw [hps, addAll_additions]
    simp [empty, Production.head_ne_nil]

/-- A head of a table is taken over without a symbol exactly if it is a sequence without
elements. -/
theorem readSide_eq_ok_nil_iff {key brackets : Datum} {head : List Symbol}
    (h : Production.readSide key brackets = .ok head) :
    head = [] ↔ Production.sideElements key = .ok [] := by
  obtain ⟨elements, helements, hread⟩ := bind_eq_ok_iff.mp h
  have hlength := (mapM_eq_ok_iff.mp hread).length_eq
  rw [helements, ← List.length_eq_zero_iff, ← hlength, List.length_eq_zero_iff]
  exact ⟨congrArg Except.ok, Except.ok.inj⟩

/-- Of the heads of a table, those with something under them are taken over. -/
theorem nil_mem_additions_of_addEntries {entries : List (Datum × Datum)}
    (h : g.addEntries entries = .ok g') : [] ∈ g'.additions ↔ [] ∈ g.additions ∨
      ∃ entry ∈ entries, entry.2.isVoid = false ∧ Production.sideElements entry.1 = .ok [] := by
  induction entries generalizing g with
  | nil =>
    obtain rfl : g = g' := Except.ok.inj h
    simp
  | cons entry rest ih =>
    obtain ⟨key, bucket⟩ := entry
    rw [addEntries] at h
    split at h
    · next hbucket => simp [ih h, hbucket]
    · next hbucket =>
      obtain ⟨head, hhead, h⟩ := bind_eq_ok_iff.mp h
      split at h
      · next elements helements =>
        obtain ⟨daughters, hdaughters, h⟩ := bind_eq_ok_iff.mp h
        have hne : daughters ≠ [] := daughters_ne_nil (by simpa using hbucket) helements hdaughters
        have hadded : [] ∈ g.additions ++ daughters.map (fun _ => head) ↔
            [] ∈ g.additions ∨ Production.sideElements key = .ok [] := by
          rw [← readSide_eq_ok_nil_iff hhead]
          simp [hne, eq_comm]
        rw [ih h, hadded]
        simp [hbucket, or_assoc]
      · cases h

/-- Only an empty head of a table gives a head without a symbol. -/
theorem nil_mem_additions_of_make (h : (make conventions rules start).result = .ok g) :
    [] ∈ g.additions ↔ rules.HasEmptyHead := by
  obtain ⟨s, rfl⟩ := eq_of_make h
  have hcollected : (collect conventions rules).result = .ok () := by
    obtain ⟨_, hcollected, -⟩ := bind_eq_ok_iff.mp h
    exact hcollected
  by_cases htable : ∃ entries, rules = .given (.table entries)
  · obtain ⟨entries, rfl⟩ := htable
    simp only [collect, ofEntries] at hcollected ⊢
    split at hcollected
    · cases hcollected
    · next g hg =>
      rw [nil_mem_additions_of_addEntries hg]
      simp [empty, Rules.HasEmptyHead]
  · have hother : ¬rules.HasEmptyHead := by
      rintro ⟨entries, hentries, -⟩
      exact htable ⟨entries, hentries⟩
    have hheads := heads_ne_nil_of_collect conventions
      fun entries hentries => htable ⟨entries, hentries⟩
    exact iff_of_false hheads hother

/-- A grammar that is made is usable exactly if it is made under valid brackets and not of a table
with an empty head. -/
theorem isUsable_iff_of_make (h : (make conventions rules start).result = .ok g) :
    g.IsUsable ↔
      (∃ b : Brackets, conventions.brackets = .text b.text) ∧ ¬rules.HasEmptyHead := by
  obtain ⟨-, hconventions⟩ := exists_make h
  rw [← nil_mem_additions_of_make h, ← hconventions]
  constructor
  · intro husable
    exact ⟨husable.brackets_valid, husable.heads_ne_nil⟩
  · rintro ⟨hbrackets, hheads⟩
    exact ⟨hbrackets, hheads⟩

end Keeping

/-- Of a grammar that was made of some rules and then changed by any operations, all productions can
be read exactly if there are none, or if the brackets are valid and every head has a symbol. Then
every class is decided by the productions. No operation gives this up: a grammar that is made under
valid brackets, and not of a table with an empty head, can be iterated over and classified after any
operations. -/
theorem productions_and_classes {made : Grammar}
    (hmade : (make conventions rules start).result = .ok made) (h : ReachableFrom (· = made) g) :
    ((∃ ps, g.productions = .ok ps) ↔ g.size = 0 ∨ g.IsUsable) ∧
      (∀ ps, g.productions = .ok ps → (∀ c : Class, g.belongs c = .ok (c.holds ps)) ∧
        g.classify = .ok (Class.all.map fun c => (c, c.holds ps))) ∧
      ((∃ b : Brackets, conventions.brackets = .text b.text) → ¬rules.HasEmptyHead →
        ∃ ps, g.productions = .ok ps) := by
  have hfrom : ReachableFrom IsAccepted g := by
    induction h with
    | initial hsame => exact .initial ⟨conventions, rules, start, hsame ▸ hmade⟩
    | step _ hstep ih => exact ih.step hstep
  obtain ⟨L, hL⟩ := hfrom.exists_represents
  refine ⟨hL.exists_productions_iff, fun ps hps => ⟨belongs_eq hps, classify_eq hps⟩, ?_⟩
  intro hbrackets hheads
  have hsound : made.IsSound :=
    ⟨(isUsable_iff_of_make hmade).mpr ⟨hbrackets, hheads⟩, (exists_make hmade).1⟩
  exact hL.exists_productions_iff.mpr (.inr (isUsable_of_reachableFrom hsound h))

/-- A grammar that is made of one production, and gets another one. -/
theorem productions_and_classes_pushed :
    ∃ g ps, (∃ made, (make {} (.given (.list [.production ⟨[⟨"S", .square⟩], [⟨"A", .square⟩],
          by simp⟩])) .null).result = .ok made ∧
        g = (made.push (.production ⟨[⟨"A", .square⟩], [⟨"[a]", .square⟩], by simp⟩)).grammar) ∧
      g.productions = .ok ps ∧ ps.length = 2 ∧
      g.classify = .ok (Class.all.map fun c => (c, c.holds ps)) := by
  let first : Production := ⟨[⟨"S", .square⟩], [⟨"A", .square⟩], by simp⟩
  let second : Production := ⟨[⟨"A", .square⟩], [⟨"[a]", .square⟩], by simp⟩
  let rules : Rules := .given (.list [.production first])
  let made : Grammar := { (empty {}).add first with start := some ⟨"S", .square⟩ }
  have hmade : (make {} rules .null).result = .ok made := rfl
  have hstep : ReachableFrom (· = made) (made.push (.production second)).grammar :=
    .step (.initial rfl) (.push made (.production second))
  have hheads : ¬rules.HasEmptyHead := by
    rintro ⟨entries, hentries, -⟩
    simp [rules] at hentries
  obtain ⟨-, hclasses, hread⟩ := productions_and_classes hmade hstep
  obtain ⟨ps, hps⟩ := hread ⟨.square, rfl⟩ hheads
  have hlength : ps = [first, second] := Except.ok.inj (hps.symm.trans rfl)
  exact ⟨_, ps, ⟨made, hmade, rfl⟩, hps, by rw [hlength]; rfl, (hclasses ps hps).2⟩

/-- A grammar that is made need not be one that can be iterated over and classified: neither with an
empty head that a table brings in, nor under brackets that are none. -/
theorem productions_and_classes_failed :
    (∃ made, (make {} (.given (.table [(.tuple [.text "A"], .list [.tuple [.text "[a]"]]),
          (.tuple [], .list [.tuple [.text "b"]])])) .null).result = .ok made ∧
        made.productions = .error .noHead ∧ made.isContextFree = .error .noHead ∧
        made.classify = .error .noHead) ∧
      ∃ made, (make { brackets := .text "x" } (.given (.list [.production
          ⟨[⟨"A", .square⟩], [⟨"[a]", .square⟩], by simp⟩])) .null).result = .ok made ∧
        made.productions = .error (.badBrackets .badValue (.text "x")) ∧
        made.classify = .error (.badBrackets .badValue (.text "x")) :=
  ⟨⟨headless, rfl, rfl, rfl, rfl⟩, _, rfl, rfl, rfl⟩

end Grammar

end PhraseStructure
