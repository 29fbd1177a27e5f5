import PhraseStructure.Proofs.Grammar.Reachable
import PhraseStructure.Proofs.OrderedSet

/-!
# The start symbol

An operation on a grammar changes nothing, adds productions and leaves the start symbol as it is, or
chooses a start symbol (`Step.start_cases`). What is chosen is a non-terminal of the grammar, or the
first symbol of the head that was added first and is still there (`HasChosenStart`). From this it
follows what the start symbol of a grammar can be that is reached by any operations
(`Reachable.start_fits`).
-/

namespace PhraseStructure.Grammar

variable {g g' : Grammar} {L : List (List Symbol × List Symbol)} {head d : List Symbol} {n : Nat}
  {s a : Symbol}

/-- The symbols of the productions, each as often as it stands there. -/
def occurrences (g : Grammar) : List Symbol := g.pairs.flatMap fun (h, d) => h ++ d

/-- The start symbol is a non-terminal of the grammar, or is what is chosen in want of one. -/
def HasChosenStart (g : Grammar) : Prop :=
  (∃ s, g.start = some s ∧ g.nonterminals.contains s = true) ∨ g.defaultStart = .ok g.start

section Nonterminals

/-- A symbol counts as a non-terminal if the first symbol with its text is one. -/
theorem contains_nonterminals_iff : g.nonterminals.contains s = true ↔
    ∃ a ∈ distinct g.occurrences, a.isNonterminal = true ∧ (a == s) = true := by
  rw [nonterminals, OrderedSet.filter, OrderedSet.contains_ofList]
  simp only [List.mem_filter, and_assoc]
  rfl

/-- A non-terminal of the grammar stands somewhere as a non-terminal. -/
theorem exists_occurrence (h : g.nonterminals.contains s = true) :
    ∃ a ∈ g.occurrences, (a == s) = true ∧ a.isNonterminal = true := by
  obtain ⟨a, ha, hnon, hs⟩ := contains_nonterminals_iff.mp h
  exact ⟨a, mem_of_mem_distinct ha, hs, hnon⟩

/-- What stands somewhere as a non-terminal is a non-terminal of the grammar, unless it also stands
there with other brackets. -/
theorem contains_nonterminals (ha : a ∈ g.occurrences) (hs : (a == s) = true)
    (hnon : a.isNonterminal = true)
    (hsame : ∀ a' ∈ g.occurrences, (a' == a) = true → a'.brackets = a.brackets) :
    g.nonterminals.contains s = true := by
  obtain ⟨first, hfirst, heq⟩ := exists_mem_distinct ha
  have hbrackets := hsame first (mem_of_mem_distinct hfirst) heq
  obtain rfl : first = a := by
    obtain ⟨text, brackets⟩ := first
    obtain ⟨text', brackets'⟩ := a
    obtain rfl : text = text' := Symbol.beq_iff.mp heq
    obtain rfl : brackets = brackets' := hbrackets
    rfl
  exact contains_nonterminals_iff.mpr ⟨first, hfirst, hnon, hs⟩

/-- What was there before something is added is still there. -/
theorem mem_pairsIn_addTo {buckets : List Bucket} {more : List (List Symbol)}
    {e : List Symbol × List Symbol} (h : e ∈ pairsIn buckets) :
    e ∈ pairsIn (addTo head more buckets) := by
  induction buckets with
  | nil => simp [pairsIn] at h
  | cons bucket rest ih =>
    simp only [pairsIn, List.flatMap_cons, List.mem_append] at h ih
    rw [addTo]
    split
    · simp only [pairsIn, List.flatMap_cons, List.map_append, List.mem_append]
      tauto
    · simp only [pairsIn, List.flatMap_cons, List.mem_append]
      exact h.imp_right ih

/-- A symbol that stands somewhere still does so when productions are added. -/
theorem mem_occurrences_addAll (ps : List Production) (h : a ∈ g.occurrences) :
    a ∈ (g.addAll ps).occurrences := by
  induction ps generalizing g with
  | nil => exact h
  | cons p ps ih =>
    refine ih ?_
    obtain ⟨e, he, hmem⟩ := List.mem_flatMap.mp h
    exact List.mem_flatMap.mpr ⟨e, mem_pairsIn_addTo he, hmem⟩

end Nonterminals

section Empty

/-- A grammar has no productions exactly if no head was added that is still there. -/
theorem Represents.size_eq_zero_iff (h : Represents g L) : g.size = 0 ↔ g.additions = [] := by
  rw [h.additions_eq, List.map_eq_nil_iff, size, ← length_pairsIn, List.length_eq_zero_iff]
  constructor
  · intro hnone
    by_contra hne
    obtain ⟨e, he⟩ := List.exists_mem_of_ne_nil L hne
    obtain ⟨bucket, hbucket, -⟩ := h.hasHead_iff.mpr ⟨e, he, BEq.rfl⟩
    obtain ⟨d, hd⟩ := List.exists_mem_of_ne_nil _ (h.noneEmpty bucket hbucket)
    have hmem : (bucket.1, d) ∈ pairsIn g.buckets :=
      List.mem_flatMap.mpr ⟨bucket, hbucket, List.mem_map_of_mem hd⟩
    simp [hnone] at hmem
  · rintro rfl
    by_contra hne
    obtain ⟨e, he⟩ := List.exists_mem_of_ne_nil _ hne
    obtain ⟨e', he', -⟩ := h.hasHead_iff.mp (hasHead_of_mem_pairsIn he)
    simp at he'

/-- The heads of the productions come behind those that were added before. -/
theorem addAll_additions (ps : List Production) :
    (g.addAll ps).additions = g.additions ++ ps.map Production.head := by
  induction ps generalizing g with
  | nil => simp
  | cons p ps ih => simp [ih, add]

/-- Productions are added without choosing a start symbol. -/
theorem addAll_start (ps : List Production) : (g.addAll ps).start = g.start := by
  induction ps generalizing g with
  | nil => rfl
  | cons p ps ih => exact ih

/-- The head that was added first stays the first one. -/
theorem addAll_defaultStart (h : g.additions ≠ []) (ps : List Production) :
    (g.addAll ps).defaultStart = g.defaultStart := by
  obtain ⟨first, rest, hfirst⟩ := List.exists_cons_of_ne_nil h
  simp only [defaultStart, addAll_additions, hfirst, List.cons_append]
  cases first <;> rfl

/-- There is nothing to start with by default if there is no production. -/
theorem defaultStart_eq_none_iff : g.defaultStart = .ok none ↔ g.additions = [] := by
  unfold defaultStart
  split <;> simp_all

end Empty

section Choosing

/-- A start symbol that is kept or replaced by the default is a chosen one. -/
theorem hasChosenStart_of_inheritStart {start : Option Symbol}
    (h : g.inheritStart start = .ok g') : g'.HasChosenStart := by
  unfold inheritStart at h
  split at h
  · next s =>
    split at h
    · next hs =>
      cases h
      exact .inl ⟨s, rfl, hs⟩
    · obtain ⟨first, hfirst, hg⟩ := bind_eq_ok_iff.mp h
      cases hg
      exact .inr hfirst
  · obtain ⟨first, hfirst, hg⟩ := bind_eq_ok_iff.mp h
    cases hg
    exact .inr hfirst

/-- Only heads that were there are left. -/
theorem forget_subset (head : List Symbol) (n : Nat) (heads : List (List Symbol)) :
    forget head n heads ⊆ heads := by
  fun_induction forget head n heads with
  | case1 => simp
  | case2 h rest hhead => exact List.subset_cons_self h rest
  | case3 h rest hhead n ih => exact List.cons_subset_cons h ih
  | case4 n h rest hhead ih => exact List.cons_subset_cons h ih

/-- A removal that succeeds chooses the start symbol, and one that fails changes nothing. -/
theorem removeAt_cases (hg : [] ∉ g.additions) (head : List Symbol) (n : Nat) :
    (g.removeAt head n).grammar.HasChosenStart ∨
      (g.removeAt head n).grammar = g ∧ ∃ fault, (g.removeAt head n).result = .error fault := by
  cases hd : (g.daughtersOf head)[n]? with
  | none => exact .inr (by simp [removeAt, hd])
  | some d =>
    have hheads : [] ∉ (g.erase head n).additions := fun h => hg (forget_subset head n _ h)
    obtain ⟨s, hs⟩ := exists_inheritStart hheads g.start
    refine .inl ?_
    simp only [removeAt, hd, hs]
    split <;> exact hasChosenStart_of_inheritStart hs

/-- Popping chooses a start symbol, or fails and changes nothing. -/
theorem popGiven_cases (hg : [] ∉ g.additions) (index : Datum) :
    (g.popGiven index).grammar.HasChosenStart ∨
      (g.popGiven index).grammar = g ∧ ∃ fault, (g.popGiven index).result = .error fault := by
  rcases exists_popGiven g index with ⟨fault, hsame⟩ | ⟨head, n, hremoved⟩
  · rw [hsame]
    exact .inr ⟨rfl, fault, rfl⟩
  · rw [hremoved]
    exact removeAt_cases hg head n

/-- Only a non-terminal is made the start symbol. -/
theorem setStart_cases (g : Grammar) (symbol : Datum) :
    (∃ s, (g.setStart symbol).grammar = { g with start := some s } ∧
      g.nonterminals.contains s = true) ∨
      (g.setStart symbol).grammar = g ∧ ∃ fault, (g.setStart symbol).result = .error fault := by
  unfold setStart
  split
  · exact .inr ⟨rfl, _, rfl⟩
  · next s _ =>
    split
    · next hs => exact .inl ⟨s, rfl, hs⟩
    · exact .inr ⟨rfl, _, rfl⟩

/-- A production is only returned after a start symbol was chosen. -/
theorem hasChosenStart_of_popGiven (hg : [] ∉ g.additions) {index : Datum} {p : Production}
    (h : (g.popGiven index).result = .ok p) : (g.popGiven index).grammar.HasChosenStart := by
  rcases popGiven_cases hg index with hchosen | ⟨-, fault, hfault⟩
  · exact hchosen
  · exact nomatch h.symm.trans hfault

/-- A start symbol that is accepted is a non-terminal of the grammar. -/
theorem exists_of_setStart {symbol : Datum} (h : (g.setStart symbol).result = .ok ()) :
    ∃ s, (g.setStart symbol).grammar = { g with start := some s } ∧
      g.nonterminals.contains s = true := by
  rcases setStart_cases g symbol with hset | ⟨-, fault, hfault⟩
  · exact hset
  · exact nomatch h.symm.trans hfault

/-- A union has a chosen start symbol. -/
theorem hasChosenStart_of_union {rules : Rules} (h : (g.union rules).result = .ok g') :
    g'.HasChosenStart := by
  unfold union at h
  split at h
  · exact nomatch h
  · obtain ⟨_, -, hstart⟩ := bind_eq_ok_iff.mp h
    exact hasChosenStart_of_inheritStart hstart

/-- A difference has a chosen start symbol. -/
theorem hasChosenStart_of_difference {rules : Rules} (h : (g.difference rules).result = .ok g') :
    g'.HasChosenStart := by
  unfold difference at h
  split at h
  · exact nomatch h
  · obtain ⟨_, -, hstart⟩ := bind_eq_ok_iff.mp h
    exact hasChosenStart_of_inheritStart hstart

/-- A grammar that is made has a chosen start symbol. -/
theorem hasChosenStart_of_make {conventions : Conventions} {rules : Rules} {start : Datum}
    (h : (make conventions rules start).result = .ok g) : g.HasChosenStart := by
  unfold make at h
  obtain ⟨_, -, h⟩ := bind_eq_ok_iff.mp h
  split at h
  · obtain ⟨first, hfirst, hg⟩ := bind_eq_ok_iff.mp h
    cases hg
    exact .inr hfirst
  · obtain ⟨_, hset, hg⟩ := bind_eq_ok_iff.mp h
    cases hg
    obtain ⟨s, hgrammar, hs⟩ := exists_of_setStart hset
    rw [hgrammar]
    exact .inl ⟨s, rfl, hs⟩

/-- Rules were added to the grammar itself. -/
def AddsRules (g g' : Grammar) : Prop :=
  (∃ rule, g' = (g.push rule).grammar) ∨ ∃ rules, g' = (g.extend rules).grammar

/-- An operation changes nothing, chooses the start symbol, or adds rules. -/
theorem Step.start_cases (hstep : Step g g') (hg : [] ∉ g.additions) :
    g' = g ∨ g'.HasChosenStart ∨ AddsRules g g' ∧ ∃ ps, g' = g.addAll ps := by
  cases hstep with
  | push rule =>
    refine .inr (.inr ⟨.inl ⟨rule, rfl⟩, ?_⟩)
    unfold Grammar.push
    split
    · next p _ => exact ⟨[p], rfl⟩
    · exact ⟨[], rfl⟩
  | extend rules => exact .inr (.inr ⟨.inr ⟨rules, rfl⟩, exists_extend g rules⟩)
  | pop index =>
    rcases popGiven_cases hg index with hchosen | ⟨hsame, -⟩
    · exact .inr (.inl hchosen)
    · exact .inl hsame
  | setStart symbol =>
    rcases setStart_cases g symbol with ⟨s, hgrammar, hs⟩ | ⟨hsame, -⟩
    · rw [hgrammar]
      exact .inr (.inl (.inl ⟨s, rfl, hs⟩))
    · exact .inl hsame
  | copy => exact .inl rfl
  | union rules hunion => exact .inr (.inl (hasChosenStart_of_union hunion))
  | difference rules hdifference => exact .inr (.inl (hasChosenStart_of_difference hdifference))

end Choosing

section Reaching

/-- Without productions there is no start symbol, and a start symbol is the first symbol of the head
that was added first, or stands somewhere as a non-terminal. -/
structure StartFits (g : Grammar) : Prop where
  eq_none : g.additions = [] → g.start = none
  occurs : ∀ s, g.start = some s → g.defaultStart = .ok (some s) ∨
    ∃ a ∈ g.occurrences, (a == s) = true ∧ a.isNonterminal = true

/-- A start symbol that was chosen fits the productions. -/
theorem HasChosenStart.startFits (h : g.HasChosenStart) (hL : Represents g L) : g.StartFits where
  eq_none hempty := by
    rcases h with ⟨s, -, hs⟩ | hdefault
    · obtain ⟨a, ha, -⟩ := exists_occurrence hs
      obtain ⟨e, he, -⟩ := List.mem_flatMap.mp ha
      have hsize := hL.size_eq_zero_iff.mpr hempty
      rw [size, ← length_pairsIn, List.length_eq_zero_iff] at hsize
      rw [pairs, ← pairsIn, hsize] at he
      simp at he
    · exact (Except.ok.inj ((defaultStart_eq_none_iff.mpr hempty).symm.trans hdefault)).symm
  occurs s hstart := by
    rcases h with ⟨s', hs', hcontains⟩ | hdefault
    · obtain rfl : s' = s := Option.some.inj (hs'.symm.trans hstart)
      exact .inr (exists_occurrence hcontains)
    · exact .inl (hstart ▸ hdefault)

/-- No start symbol is chosen only if no head was added. -/
theorem HasChosenStart.additions_eq_nil (h : g.HasChosenStart) (hstart : g.start = none) :
    g.additions = [] := by
  rcases h with ⟨s, hs, -⟩ | hdefault
  · exact nomatch hstart.symm.trans hs
  · exact defaultStart_eq_none_iff.mp (hstart ▸ hdefault)

/-- No start symbol is chosen only if there is no production. -/
theorem HasChosenStart.size_eq_zero (h : g.HasChosenStart) (hL : Represents g L)
    (hstart : g.start = none) : g.size = 0 :=
  hL.size_eq_zero_iff.mpr (h.additions_eq_nil hstart)

/-- A start symbol still fits when productions are added. -/
theorem StartFits.addAll (h : g.StartFits) (ps : List Production) : (g.addAll ps).StartFits where
  eq_none hempty := by
    rw [addAll_additions, List.append_eq_nil_iff] at hempty
    rw [addAll_start, h.eq_none hempty.1]
  occurs s hstart := by
    rw [addAll_start] at hstart
    have hne : g.additions ≠ [] := fun hempty => nomatch (h.eq_none hempty).symm.trans hstart
    rw [addAll_defaultStart hne]
    exact (h.occurs s hstart).imp_right fun ⟨a, ha, hs⟩ => ⟨a, mem_occurrences_addAll ps ha, hs⟩

/-- Every operation on a sound grammar leaves it with a start symbol that fits. -/
theorem Step.startFits (hstep : Step g g') (hg : g.IsSound) (h : g.StartFits) : g'.StartFits := by
  obtain ⟨L, hL⟩ := (hstep.isSound hg).represents
  rcases hstep.start_cases hg.usable.heads_ne_nil with rfl | hchosen | ⟨-, ps, rfl⟩
  · exact h
  · exact hchosen.startFits hL
  · exact h.addAll ps

/-- The start symbol of a grammar that can be reached fits its productions. -/
theorem Reachable.startFits (h : Reachable g) : g.StartFits := by
  induction h with
  | initial hmade =>
    obtain ⟨L, hL⟩ := hmade.isSound.represents
    obtain ⟨_, _, _, hmake⟩ := hmade.1
    exact (hasChosenStart_of_make hmake).startFits hL
  | step hreach hstep ih => exact hstep.startFits (Reachable.isSound hreach) ih

/-- Reached by operations none of which adds rules to a grammar itself that has no productions. -/
inductive ReachableFilled : Grammar → Prop
  | made {g : Grammar} : IsMade g → ReachableFilled g
  | step {g g' : Grammar} : ReachableFilled g → Step g g' →
      (AddsRules g g' → g.size = 0 → g'.size = 0) → ReachableFilled g'

/-- What is reached without filling an empty grammar is reached. -/
theorem ReachableFilled.reachable (h : ReachableFilled g) : Reachable g := by
  induction h with
  | made hmade => exact .initial hmade
  | step _ hstep _ ih => exact ih.step hstep

/-- A start symbol is missing only where there are no productions. -/
theorem ReachableFilled.size_eq_zero (h : ReachableFilled g) (hstart : g.start = none) :
    g.size = 0 := by
  induction h with
  | made hmade =>
    obtain ⟨L, hL⟩ := hmade.isSound.represents
    obtain ⟨_, _, _, hmake⟩ := hmade.1
    exact (hasChosenStart_of_make hmake).size_eq_zero hL hstart
  | step hreach hstep hfilled ih =>
    have hsound := hreach.reachable.isSound
    obtain ⟨L, hL⟩ := (hstep.isSound hsound).represents
    rcases hstep.start_cases hsound.usable.heads_ne_nil with rfl | hchosen | ⟨hadds, ps, rfl⟩
    · exact ih hstart
    · exact hchosen.size_eq_zero hL hstart
    · rw [addAll_start] at hstart
      exact hfilled hadds (ih hstart)

/-- What the start symbol of a grammar can be. -/
theorem Reachable.start_fits (h : Reachable g) :
    (g.size = 0 → g.start = none) ∧
    (ReachableFilled g → g.start = none → g.size = 0) ∧
    (∀ s, g.start = some s → g.defaultStart = .ok (some s) ∨
      ∃ a ∈ g.occurrences, (a == s) = true ∧ a.isNonterminal = true ∧
        ((∀ a' ∈ g.occurrences, (a' == a) = true → a'.brackets = a.brackets) →
          g.nonterminals.contains s = true)) ∧
    (∀ index p, (g.popGiven index).result = .ok p → (g.popGiven index).grammar.HasChosenStart) ∧
    (∀ symbol, (g.setStart symbol).result = .ok () →
      ∃ s, (g.setStart symbol).grammar.start = some s ∧ g.nonterminals.contains s = true) ∧
    (∀ rules g', (g.union rules).result = .ok g' → g'.HasChosenStart) ∧
    (∀ rules g', (g.difference rules).result = .ok g' → g'.HasChosenStart) := by
  obtain ⟨L, hL⟩ := h.isSound.represents
  have hheads := h.isSound.usable.heads_ne_nil
  refine ⟨fun hsize => h.startFits.eq_none (hL.size_eq_zero_iff.mp hsize),
    fun hfilled => hfilled.size_eq_zero, fun s hs => ?_,
    fun _ _ => hasChosenStart_of_popGiven hheads, fun symbol hset => ?_,
    fun _ _ => hasChosenStart_of_union, fun _ _ => hasChosenStart_of_difference⟩
  · refine (h.startFits.occurs s hs).imp_right ?_
    rintro ⟨a, ha, heq, hnon⟩
    exact ⟨a, ha, heq, hnon, contains_nonterminals ha heq hnon⟩
  · obtain ⟨s, hgrammar, hs⟩ := exists_of_setStart hset
    exact ⟨s, by rw [hgrammar], hs⟩

/-- A start symbol that was assigned, and a removal after that. -/
theorem start_fits_assigned :
    ∃ g p s, ReachableFilled g ∧ g.start = some s ∧ g.defaultStart ≠ .ok (some s) ∧
      g.nonterminals.contains s = true ∧ (g.popGiven .null).result = .ok p ∧
      (g.popGiven .null).grammar.HasChosenStart := by
  let p₁ : Production := ⟨[⟨"S", .square⟩], [⟨"A", .square⟩], by simp⟩
  let p₂ : Production := ⟨[⟨"A", .square⟩], [], by simp⟩
  let g : Grammar := { (empty {}).addAll [p₁, p₂] with start := some ⟨"A", .square⟩ }
  have hmade : IsMade g :=
    ⟨⟨{}, .given (.list [.production p₁, .production p₂]), .text "A", rfl⟩, ⟨.square, rfl⟩,
      by simp [empty, g, add, p₁, p₂]⟩
  have hdefault : g.defaultStart ≠ .ok (some ⟨"A", .square⟩) := by
    simp [defaultStart, g, empty, add, p₁]
  have hpop : (g.popGiven .null).result = .ok p₂ := rfl
  have hsame : ∀ b ∈ g.occurrences, b.brackets = Brackets.square := by decide
  obtain ⟨-, -, hstart, hpopped, -⟩ := Reachable.start_fits (.initial hmade)
  obtain ⟨b, hb, -, -, hmem⟩ := (hstart ⟨"A", .square⟩ rfl).resolve_left hdefault
  have hcontains := hmem fun b' hb' _ => (hsame b' hb').trans (hsame b hb).symm
  exact ⟨g, p₂, _, .made hmade, rfl, hdefault, hcontains, hpop, hpopped _ _ hpop⟩
/-- The first symbol of the first head may be a terminal, and is the start symbol nevertheless. A
non-terminal that was assigned is no longer one of the non-terminals when it is a terminal under the
brackets of a production that is added later, and stands before the other ones. -/
theorem not_start_mem_nonterminals :
    (¬ ∀ g, Reachable g → (g.start = none ↔ g.size = 0) ∧
      ∀ s, g.start = some s → g.nonterminals.contains s = true) ∧
    ∃ g s, Reachable g ∧ g.start = some s ∧ g.defaultStart ≠ .ok (some s) ∧
      g.nonterminals.contains s = false := by
  have hvalid : ∃ b : Brackets, (.text "[]" : Datum) = .text b.text := ⟨.square, rfl⟩
  constructor
  · intro h
    let word : Symbol := ⟨"[a]", .square⟩
    let p : Production := ⟨[word], [⟨"b", .square⟩], by simp⟩
    have hmade : IsMade { (empty {}).add p with start := some word } :=
      ⟨⟨{}, .given (.list [.production p]), .null, rfl⟩, hvalid, by simp [empty, add, p]⟩
    exact absurd ((h _ (.initial hmade)).2 word rfl) (by decide)
  · let angle : Brackets := ⟨'<', '>', rfl, rfl⟩
    let p₁ : Production := ⟨[⟨"S", .square⟩], [⟨"x", .square⟩], by simp⟩
    let p₂ : Production := ⟨[⟨"A", .square⟩], [⟨"<a>", .square⟩], by simp⟩
    let p₃ : Production := ⟨[⟨"S", angle⟩], [⟨"<a>", angle⟩], by simp⟩
    let g : Grammar := { (empty {}).addAll [p₁, p₂] with start := some ⟨"<a>", .square⟩ }
    have hmade : IsMade g :=
      ⟨⟨{}, .given (.list [.production p₁, .production p₂]), .text "<a>", rfl⟩, hvalid,
        by simp [empty, g, add, p₁, p₂]⟩
    have hreach : Reachable (g.push (.production p₃)).grammar :=
      (ReachableFrom.initial hmade).step (.push g (.production p₃))
    refine ⟨_, ⟨"<a>", .square⟩, hreach, rfl, ?_, by decide⟩
    simp [Grammar.push, readRule, Production.ofRule, defaultStart, g, add, empty, p₁]

end Reaching

end PhraseStructure.Grammar
