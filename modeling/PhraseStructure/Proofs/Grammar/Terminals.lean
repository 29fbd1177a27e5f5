import PhraseStructure.Proofs.Grammar.Iteration
import PhraseStructure.Proofs.Production.Reprint

/-!
# Terminals in the alphabets and in the productions

Whether a symbol is terminal is decided twice: in the alphabets by the brackets that its first
occurrence is stored with, and in the productions that an iteration gives by the brackets of the
grammar. Both agree on a symbol exactly if these two pairs of brackets do (`agreesOn_iff`). A
production that is ready-made, or comes from a grammar with other brackets, is stored with the
brackets that it has. If none of that kind is added, all symbols are stored under the brackets of
the grammar (`ReachableUnder.isUnder`), and the alphabets and the productions agree throughout
(`Reachable.terminals_agree`).
-/

namespace PhraseStructure

variable {b b' : Brackets} {xs ys : List Symbol} {g g' : Grammar} {p : Production}

/-- Two brackets are determined by the text that they make up. -/
theorem Brackets.text_injective (h : b.text = b'.text) : b = b' := by
  have hread := Brackets.read_text .badValue b
  rw [h, Brackets.read_text] at hread
  exact (Except.ok.inj hread).symm

/-- Two lists of symbols are under one pair of brackets if both of them are. -/
theorem areUnder_append : AreUnder b (xs ++ ys) ↔ AreUnder b xs ∧ AreUnder b ys :=
  List.forall_mem_append

/-- Symbols that are given other brackets are under these. -/
theorem AreUnder.of_rebracketed (xs : List Symbol) (b : Brackets) :
    AreUnder b (xs.map (Production.rebracketed · b)) := by
  intro s hs
  obtain ⟨s', -, rfl⟩ := List.mem_map.mp hs
  rfl

namespace Production

/-- Stored symbols are read under the brackets that are given. -/
theorem rewrap_text_eq_ok_iff {head daughters : List Symbol} :
    rewrap head daughters (.text b.text) = .ok p ↔
      p.head = head.map (rebracketed · b) ∧ p.daughters = daughters.map (rebracketed · b) := by
  rw [rewrap_eq_ok_iff]
  constructor
  · rintro ⟨b', hb', hp⟩
    obtain rfl := Brackets.text_injective (Datum.text.inj hb')
    exact hp
  · intro hp
    exact ⟨b, rfl, hp⟩

/-- A production that is read from stored symbols is under the brackets that are given. -/
theorem areUnder_of_rewrap {head daughters : List Symbol}
    (h : rewrap head daughters (.text b.text) = .ok p) : AreUnder b p.symbols := by
  obtain ⟨hhead, hdaughters⟩ := rewrap_text_eq_ok_iff.mp h
  rw [symbols, hhead, hdaughters, areUnder_append]
  exact ⟨.of_rebracketed head b, .of_rebracketed daughters b⟩

/-- Symbols that are read from a value are under the brackets that are given. -/
theorem areUnder_of_readSide {given : Datum} (h : readSide given (.text b.text) = .ok xs) :
    AreUnder b xs := by
  obtain ⟨elements, -, hread⟩ := bind_eq_ok_iff.mp h
  intro s hs
  obtain ⟨element, -, helement⟩ := exists_of_mem_mapM hread hs
  unfold Symbol.read at helement
  rw [Brackets.read_text] at helement
  split at helement
  · cases helement
    rfl
  · cases helement
    rfl
  · cases helement

/-- A production that is made of two sides carries the brackets that are given. -/
theorem areUnder_of_read {head daughters : Datum} (h : read head daughters (.text b.text) = .ok p) :
    AreUnder b p.symbols := by
  obtain ⟨heads, hheads, h⟩ := bind_eq_ok_iff.mp h
  split at h
  · obtain ⟨others, hothers, hp⟩ := bind_eq_ok_iff.mp h
    cases hp
    exact areUnder_append.mpr ⟨areUnder_of_readSide hheads, areUnder_of_readSide hothers⟩
  · cases h

/-- Only a production that is ready-made keeps its brackets. -/
theorem areUnder_of_ofRule {rule delimiter : Datum}
    (hrule : ∀ q, rule = .production q → AreUnder b q.symbols)
    (h : ofRule rule delimiter (.text b.text) = .ok p) : AreUnder b p.symbols := by
  unfold ofRule at h
  split at h
  · cases h
    exact hrule _ rfl
  · unfold ofText at h
    split at h
    · obtain ⟨sides, -, hsides⟩ := bind_eq_ok_iff.mp h
      exact areUnder_of_read hsides
    · cases h
    · cases h
  · split at h
    · exact areUnder_of_read h
    · cases h

end Production

/-- The rules in a text are texts. -/
theorem Rules.exists_of_ofText {text : String} {separator : Datum} {lines : List Datum}
    (h : ofText text separator = .ok lines) :
    ∃ pieces : List (List Char), lines = pieces.map fun piece => .text (String.ofList piece) := by
  unfold ofText at h
  dsimp only at h
  split at h
  · obtain ⟨pieces, -, hlines⟩ := bind_eq_ok_iff.mp h
    exact ⟨_, (Except.ok.inj hlines).symm⟩
  · split at h
    · obtain ⟨pieces, -, hlines⟩ := bind_eq_ok_iff.mp h
      exact ⟨_, (Except.ok.inj hlines).symm⟩
    · cases h
  · cases h

/-- Among the rules there is no production with other brackets, and they are not those of a grammar
with other brackets. -/
def Rules.AreUnder (b : Brackets) : Rules → Prop
  | given d => ∀ elements, d.elements? = some elements → ∀ p, .production p ∈ elements →
      PhraseStructure.AreUnder b p.symbols
  | grammar h => h.conventions.brackets = .text b.text
  | itself => True

namespace Grammar

variable {ps : List Production} {s : Symbol} {rules : Rules} {buckets : List Bucket}
  {head : List Symbol} {more : List (List Symbol)}

section Agreeing

/-- The alphabets hold a symbol as terminal, or as non-terminal, exactly if it is one somewhere in
the productions, and it can be made the start symbol exactly if it is a non-terminal there. -/
structure AgreesOn (g : Grammar) (ps : List Production) (s : Symbol) : Prop where
  terminals : g.terminals.contains s = true ↔
    ∃ p ∈ ps, ∃ a ∈ p.symbols, (a == s) = true ∧ a.isTerminal = true
  nonterminals : g.nonterminals.contains s = true ↔
    ∃ p ∈ ps, ∃ a ∈ p.symbols, (a == s) = true ∧ a.isNonterminal = true
  start : (g.setStart (.text s.text)).result = .ok () ↔
    ∃ p ∈ ps, ∃ a ∈ p.symbols, (a == s) = true ∧ a.isNonterminal = true

/-- The productions that a grammar gives are those that it stores, under its own brackets. -/
theorem map_sides_productions (hb : g.conventions.brackets = .text b.text)
    (h : g.productions = .ok ps) : ps.map Production.sides = g.pairs.map fun e =>
      (e.1.map (Production.rebracketed · b), e.2.map (Production.rebracketed · b)) := by
  have hreadings : g.readings = ps.map .ok := mapM_id_eq_ok_iff.mp h
  clear h
  rw [readings, hb] at hreadings
  generalize g.pairs = pairs at hreadings ⊢
  induction pairs generalizing ps with
  | nil =>
    obtain rfl : ps = [] := by simpa using hreadings.symm
    rfl
  | cons pair pairs ih =>
    cases ps with
    | nil => simp at hreadings
    | cons p ps =>
      obtain ⟨hp, hps⟩ := List.cons.inj hreadings
      obtain ⟨hhead, hdaughters⟩ := Production.rewrap_text_eq_ok_iff.mp hp
      rw [List.map_cons, List.map_cons, ih hps, Production.sides, hhead, hdaughters]

/-- The symbols of the productions are those that are stored, with the brackets of the grammar. -/
theorem flatMap_symbols (hb : g.conventions.brackets = .text b.text)
    (h : g.productions = .ok ps) :
    ps.flatMap Production.symbols = g.occurrences.map (Production.rebracketed · b) := by
  have hflat : ps.flatMap Production.symbols =
      (ps.map Production.sides).flatMap fun e => e.1 ++ e.2 := by
    rw [List.flatMap_map]
    rfl
  rw [hflat, map_sides_productions hb h, occurrences, List.flatMap_map, List.map_flatMap]
  simp only [List.map_append]

/-- What a symbol is in the productions is decided by the first place where it is stored. -/
theorem exists_symbol_iff (hb : g.conventions.brackets = .text b.text)
    (h : g.productions = .ok ps) {keep : Symbol → Bool} :
    (∃ p ∈ ps, ∃ a ∈ p.symbols, (a == s) = true ∧ keep a = true) ↔
      ∃ a, g.occurrences.find? (· == s) = some a ∧ keep (Production.rebracketed a b) = true := by
  have hmem : (∃ p ∈ ps, ∃ a ∈ p.symbols, (a == s) = true ∧ keep a = true) ↔
      ∃ a ∈ ps.flatMap Production.symbols, (a == s) = true ∧ keep a = true := by
    simp only [List.mem_flatMap]
    tauto
  have hsame : ∀ {a a' : Symbol}, (a == s) = true → (a' == s) = true →
      Production.rebracketed a b = Production.rebracketed a' b := by
    intro a a' ha ha'
    have htext : a.text = a'.text := Symbol.beq_iff.mp (BEq.trans ha (BEq.symm ha'))
    rw [Production.rebracketed, Production.rebracketed, htext]
  rw [hmem, flatMap_symbols hb h]
  constructor
  · rintro ⟨a, ha, has, hkeep⟩
    obtain ⟨stored, hstored, rfl⟩ := List.mem_map.mp ha
    have hsome : (g.occurrences.find? (· == s)).isSome = true :=
      List.find?_isSome.mpr ⟨stored, hstored, has⟩
    obtain ⟨first, hfirst⟩ := Option.isSome_iff_exists.mp hsome
    have hfirsts : (first == s) = true := by simpa using List.find?_some hfirst
    exact ⟨first, hfirst, by rw [hsame hfirsts has]; exact hkeep⟩
  · rintro ⟨first, hfirst, hkeep⟩
    have hfirsts : (first == s) = true := by simpa using List.find?_some hfirst
    exact ⟨_, List.mem_map_of_mem (List.mem_of_find?_eq_some hfirst), hfirsts, hkeep⟩

/-- A symbol is in the alphabet, with a condition, if the place where it is stored first fulfils the
condition. -/
theorem contains_alphabet_filter {keep : Symbol → Bool} :
    (g.alphabet.filter keep).contains s = true ↔
      ∃ a, g.occurrences.find? (· == s) = some a ∧ keep a = true :=
  OrderedSet.contains_filter_ofList

/-- What can be made the start symbol are the non-terminals. -/
theorem setStart_text_iff (hb : g.conventions.brackets = .text b.text) :
    (g.setStart (.text s.text)).result = .ok () ↔ g.nonterminals.contains s = true := by
  have hread : Symbol.read (.text s.text) g.conventions.brackets = .ok ⟨s.text, b⟩ := by
    rw [hb, Symbol.read, Brackets.read_text]
    rfl
  have hsame : ∀ a : Symbol, (a == ⟨s.text, b⟩) = (a == s) := by
    intro a
    rw [Bool.eq_iff_iff, Symbol.beq_iff, Symbol.beq_iff]
  have hcontains : g.nonterminals.contains ⟨s.text, b⟩ = true ↔
      g.nonterminals.contains s = true := by
    rw [Grammar.nonterminals, contains_alphabet_filter, contains_alphabet_filter]
    simp only [hsame]
  rw [← hcontains, setStart, hread]
  dsimp only
  split
  · next h => exact iff_of_true rfl h
  · next h => exact iff_of_false (by simp) h

/-- The alphabets and the productions agree on a symbol exactly if the brackets that it is stored
with first and those of the grammar do. -/
theorem agreesOn_iff (hb : g.conventions.brackets = .text b.text) (h : g.productions = .ok ps) :
    g.AgreesOn ps s ↔ ∀ a, g.occurrences.find? (· == s) = some a →
      a.isTerminal = (Production.rebracketed a b).isTerminal := by
  constructor
  · rintro ⟨hterminals, -⟩ a ha
    rw [Grammar.terminals, contains_alphabet_filter, exists_symbol_iff hb h, ha] at hterminals
    rw [Bool.eq_iff_iff]
    simpa using hterminals
  · intro hall
    have hkeep : ∀ keep : Symbol → Bool,
        (∀ a, g.occurrences.find? (· == s) = some a → keep a = keep (Production.rebracketed a b)) →
        ((g.alphabet.filter keep).contains s = true ↔
          ∃ p ∈ ps, ∃ a ∈ p.symbols, (a == s) = true ∧ keep a = true) := by
      intro keep hsame
      rw [contains_alphabet_filter, exists_symbol_iff hb h]
      exact exists_congr fun a => and_congr_right fun ha => by rw [hsame a ha]
    have hnonterminals := hkeep Symbol.isNonterminal fun a ha => by
      rw [Symbol.isNonterminal, Symbol.isNonterminal, hall a ha]
    exact ⟨hkeep Symbol.isTerminal hall, hnonterminals, (setStart_text_iff hb).trans hnonterminals⟩

end Agreeing

section Storing

/-- All symbols in some buckets carry one pair of brackets. -/
def BucketsUnder (b : Brackets) (buckets : List Bucket) : Prop :=
  ∀ bucket ∈ buckets, AreUnder b bucket.1 ∧ ∀ d ∈ bucket.2, AreUnder b d

/-- The grammar stores all symbols under its own brackets. -/
structure IsUnder (b : Brackets) (g : Grammar) : Prop where
  brackets_eq : g.conventions.brackets = .text b.text
  buckets : BucketsUnder b g.buckets

/-- Buckets stay under one pair of brackets if what is added to them is under it. -/
theorem BucketsUnder.addTo (h : BucketsUnder b buckets) (hhead : AreUnder b head)
    (hmore : ∀ d ∈ more, AreUnder b d) : BucketsUnder b (addTo head more buckets) := by
  induction buckets with
  | nil =>
    rw [Grammar.addTo]
    exact fun bucket hbucket => List.mem_singleton.mp hbucket ▸ ⟨hhead, hmore⟩
  | cons bucket rest ih =>
    obtain ⟨hbucket, hrest⟩ := List.forall_mem_cons.mp h
    rw [Grammar.addTo]
    split
    · refine List.forall_mem_cons.mpr ⟨⟨hbucket.1, fun d hd => ?_⟩, hrest⟩
      rcases List.mem_append.mp hd with hold | hnew
      · exact hbucket.2 d hold
      · exact hmore d hnew
    · exact List.forall_mem_cons.mpr ⟨hbucket, ih hrest⟩

/-- Erasing daughters leaves the buckets under their brackets. -/
theorem BucketsUnder.eraseFrom (h : BucketsUnder b buckets) (head : List Symbol) (n : Nat) :
    BucketsUnder b (eraseFrom head n buckets) := by
  induction buckets with
  | nil => exact h
  | cons bucket rest ih =>
    obtain ⟨hbucket, hrest⟩ := List.forall_mem_cons.mp h
    have hkept : ∀ d ∈ bucket.2.eraseIdx n, AreUnder b d :=
      fun d hd => hbucket.2 d (List.mem_of_mem_eraseIdx hd)
    rw [Grammar.eraseFrom]
    split
    · split
      · exact hrest
      · exact List.forall_mem_cons.mpr ⟨⟨hbucket.1, hkept⟩, hrest⟩
    · exact List.forall_mem_cons.mpr ⟨hbucket, ih hrest⟩

namespace IsUnder

/-- The empty grammar stores nothing under other brackets. -/
theorem empty {conventions : Conventions} (h : conventions.brackets = .text b.text) :
    IsUnder b (empty conventions) where
  brackets_eq := h
  buckets _ hbucket := by simp [Grammar.empty] at hbucket

/-- The start symbol does not matter. -/
theorem withStart (h : IsUnder b g) (s : Option Symbol) : IsUnder b { g with start := s } :=
  ⟨h.brackets_eq, h.buckets⟩

/-- Adding a production under its brackets leaves a grammar under them. -/
theorem add (h : IsUnder b g) (hp : AreUnder b p.symbols) : IsUnder b (g.add p) where
  brackets_eq := h.brackets_eq
  buckets := by
    obtain ⟨hhead, hdaughters⟩ := areUnder_append.mp hp
    exact h.buckets.addTo hhead fun d hd => List.mem_singleton.mp hd ▸ hdaughters

/-- Every symbol that is stored carries the brackets of the grammar. -/
theorem areUnder_occurrences (h : IsUnder b g) : AreUnder b g.occurrences := by
  intro s hs
  obtain ⟨pair, hpair, hmem⟩ := List.mem_flatMap.mp hs
  obtain ⟨bucket, hbucket, hfound⟩ := List.mem_flatMap.mp hpair
  obtain ⟨d, hd, rfl⟩ := List.mem_map.mp hfound
  obtain ⟨hhead, hdaughters⟩ := h.buckets bucket hbucket
  rcases List.mem_append.mp hmem with hfront | hback
  · exact hhead s hfront
  · exact hdaughters d hd s hback

/-- Readings are added as they are. -/
theorem addReadings {readings : List (Except Fault Production)} (h : IsUnder b g)
    (hreadings : ∀ p, .ok p ∈ readings → AreUnder b p.symbols) :
    IsUnder b (g.addReadings readings).grammar := by
  induction readings generalizing g with
  | nil => exact h
  | cons reading readings ih =>
    cases reading with
    | error fault => exact h
    | ok p =>
      exact ih (h.add (hreadings p List.mem_cons_self))
        fun q hq => hreadings q (List.mem_cons_of_mem _ hq)

/-- A grammar that is read while it grows is read under its own brackets. -/
theorem growFrom {budget : Nat} {c : Cursor} {edited : Edited Unit} (h : IsUnder b g)
    (hgrown : g.growFrom budget c = some edited) : IsUnder b edited.grammar := by
  induction budget generalizing g c edited with
  | zero => cases hgrown
  | succ budget ih =>
    rw [Grammar.growFrom] at hgrown
    split at hgrown
    · cases hgrown
      exact h
    · split at hgrown
      · cases hgrown
        exact h
      · next p hp =>
        obtain ⟨later, hlater, rfl⟩ := Option.map_eq_some_iff.mp hgrown
        rw [h.brackets_eq] at hp
        have hadded : IsUnder b (g.add p) := h.add (Production.areUnder_of_rewrap hp)
        exact ⟨(ih hadded hlater).brackets_eq, (ih hadded hlater).buckets⟩

/-- What is read from a grammar is under the brackets of the grammar. -/
theorem areUnder_of_readings (h : g.conventions.brackets = .text b.text)
    (hp : .ok p ∈ g.readings) : AreUnder b p.symbols := by
  obtain ⟨pair, -, hread⟩ := List.mem_map.mp hp
  rw [h] at hread
  exact Production.areUnder_of_rewrap hread

/-- What is read of rules without foreign brackets is under the brackets of the grammar. -/
theorem areUnder_of_rules {readings : List (Except Fault Production)} (h : IsUnder b g)
    (hrules : rules.AreUnder b) (hread : rules.readings g = .ok readings)
    (hp : .ok p ∈ readings) : AreUnder b p.symbols := by
  have hrule : ∀ rule, (∀ q, rule = .production q → AreUnder b q.symbols) →
      g.readRule rule = .ok p → AreUnder b p.symbols := by
    intro rule hready hrule
    rw [readRule, h.brackets_eq] at hrule
    exact Production.areUnder_of_ofRule hready hrule
  unfold Rules.readings at hread
  split at hread
  · next text =>
    obtain ⟨lines, hlines, hread⟩ := bind_eq_ok_iff.mp hread
    cases hread
    obtain ⟨line, hline, hp⟩ := List.mem_map.mp hp
    obtain ⟨pieces, rfl⟩ := Rules.exists_of_ofText hlines
    obtain ⟨piece, -, rfl⟩ := List.mem_map.mp hline
    exact hrule _ (fun q hq => by cases hq) hp
  · next d _ =>
    obtain ⟨elements, helements, hread⟩ := bind_eq_ok_iff.mp hread
    cases hread
    obtain ⟨element, helement, hp⟩ := List.mem_map.mp hp
    unfold Datum.toElements at helements
    split at helements
    · next hfound =>
      cases helements
      refine hrule element (fun q hq => ?_) hp
      exact hrules _ hfound q (hq ▸ helement)
    · cases helements
  · cases hread
    exact areUnder_of_readings hrules hp
  · cases hread
    exact areUnder_of_readings h.brackets_eq hp

/-- Extending a grammar by rules under its brackets leaves it under them. -/
theorem extend (h : IsUnder b g) (hrules : rules.AreUnder b) :
    IsUnder b (g.extend rules).grammar := by
  unfold Grammar.extend
  split
  · unfold extendByItself
    cases hgrown : g.growFrom (g.size + 1) ⟨0, 0⟩ with
    | none => exact h
    | some edited => exact h.growFrom hgrown
  · split
    · next readings hread => exact h.addReadings fun p hp => h.areUnder_of_rules hrules hread hp
    · exact h

/-- Choosing a start symbol leaves a grammar under its brackets. -/
theorem inheritStart {start : Option Symbol} (h : IsUnder b g)
    (hstart : g.inheritStart start = .ok g') : IsUnder b g' := by
  obtain ⟨s, rfl⟩ := eq_of_inheritStart hstart
  exact h.withStart s

/-- A removal leaves a grammar under its brackets. -/
theorem removeAt (h : IsUnder b g) (head : List Symbol) (n : Nat) :
    IsUnder b (g.removeAt head n).grammar := by
  have herased : IsUnder b (g.erase head n) := ⟨h.brackets_eq, h.buckets.eraseFrom head n⟩
  cases hd : (g.daughtersOf head)[n]? with
  | none => simpa only [Grammar.removeAt, hd] using h
  | some d =>
    cases hstart : (g.erase head n).inheritStart g.start with
    | error fault => simpa only [Grammar.removeAt, hd, hstart] using herased
    | ok rest =>
      have hrest := herased.inheritStart hstart
      simp only [Grammar.removeAt, hd, hstart]
      split <;> exact hrest

/-- Popping leaves a grammar under its brackets. -/
theorem popGiven (h : IsUnder b g) (index : Datum) : IsUnder b (g.popGiven index).grammar := by
  rcases exists_popGiven g index with ⟨fault, hsame⟩ | ⟨head, n, hremoved⟩
  · rwa [hsame]
  · rw [hremoved]
    exact h.removeAt head n

/-- Pushing a rule leaves a grammar under its brackets, unless it is a production with other
ones. -/
theorem push {rule : Datum} (h : IsUnder b g)
    (hrule : ∀ p, rule = .production p → AreUnder b p.symbols) :
    IsUnder b (g.push rule).grammar := by
  unfold Grammar.push
  split
  · next p hp =>
    rw [readRule, h.brackets_eq] at hp
    exact h.add (Production.areUnder_of_ofRule hrule hp)
  · exact h

/-- A union with rules under its brackets is under them. -/
theorem union (h : IsUnder b g) (hrules : rules.AreUnder b)
    (hunion : (g.union rules).result = .ok g') : IsUnder b g' := by
  have hcopy : IsUnder b g.copy := h
  unfold Grammar.union at hunion
  split at hunion
  · cases hunion
  · next readings hread =>
    obtain ⟨_, -, hstart⟩ := bind_eq_ok_iff.mp hunion
    exact (hcopy.addReadings fun p hp => h.areUnder_of_rules hrules hread hp).inheritStart hstart

/-- A difference consists of productions that are read from the grammar. -/
theorem difference (h : IsUnder b g) (hdifference : (g.difference rules).result = .ok g') :
    IsUnder b g' := by
  unfold Grammar.difference at hdifference
  split at hdifference
  · cases hdifference
  · obtain ⟨_, -, hstart⟩ := bind_eq_ok_iff.mp hdifference
    refine IsUnder.inheritStart ((empty h.brackets_eq).addReadings fun p hp => ?_) hstart
    exact areUnder_of_readings h.brackets_eq (List.mem_of_mem_filter hp)

/-- The heads and daughters of a table are read under the brackets of the grammar. -/
theorem addEntries {entries : List (Datum × Datum)} (h : IsUnder b g)
    (hadded : g.addEntries entries = .ok g') : IsUnder b g' := by
  induction entries generalizing g with
  | nil =>
    obtain rfl : g = g' := Except.ok.inj hadded
    exact h
  | cons entry rest ih =>
    obtain ⟨key, bucket⟩ := entry
    rw [Grammar.addEntries] at hadded
    split at hadded
    · exact ih h hadded
    · obtain ⟨head, hhead, hadded⟩ := bind_eq_ok_iff.mp hadded
      split at hadded
      · next elements _ =>
        obtain ⟨daughters, hdaughters, hadded⟩ := bind_eq_ok_iff.mp hadded
        rw [h.brackets_eq] at hhead hdaughters
        have hall : ∀ d ∈ daughters, AreUnder b d := by
          intro d hd
          obtain ⟨element, -, helement⟩ := exists_of_mem_mapM hdaughters hd
          exact Production.areUnder_of_readSide helement
        have hbuckets := h.buckets.addTo (Production.areUnder_of_readSide hhead) hall
        refine ih ?_ hadded
        exact ⟨h.brackets_eq, hbuckets⟩
      · cases hadded

/-- Rules under the given brackets make a grammar under them. -/
theorem collect {conventions : Conventions} (hb : conventions.brackets = .text b.text)
    (hrules : rules.AreUnder b) : IsUnder b (collect conventions rules).grammar := by
  unfold Grammar.collect
  split
  · exact empty hb
  · unfold ofEntries
    split
    · exact empty hb
    · next hadded => exact (empty hb).addEntries hadded
  · exact (empty hb).extend hrules

end IsUnder

end Storing

section Reaching

/-- One operation on a grammar that adds no production with other brackets. -/
inductive StepUnder (b : Brackets) : Grammar → Grammar → Prop
  | push (g : Grammar) {rule : Datum} : (∀ p, rule = .production p → AreUnder b p.symbols) →
      StepUnder b g (g.push rule).grammar
  | extend (g : Grammar) {rules : Rules} : rules.AreUnder b → StepUnder b g (g.extend rules).grammar
  | pop (g : Grammar) (index : Datum) : StepUnder b g (g.popGiven index).grammar
  | setStart (g : Grammar) (symbol : Datum) : StepUnder b g (g.setStart symbol).grammar
  | copy (g : Grammar) : StepUnder b g g.copy
  | union {g g' : Grammar} {rules : Rules} : rules.AreUnder b →
      (g.union rules).result = .ok g' → StepUnder b g g'
  | difference {g g' : Grammar} (rules : Rules) :
      (g.difference rules).result = .ok g' → StepUnder b g g'

/-- Made under valid brackets and changed by operations, without a production with other brackets
ever being added. -/
inductive ReachableUnder (b : Brackets) : Grammar → Prop
  | made {g : Grammar} {conventions : Conventions} {rules : Rules} {start : Datum} :
      (make conventions rules start).result = .ok g → conventions.brackets = .text b.text →
      rules.AreUnder b → ReachableUnder b g
  | step {g g' : Grammar} : ReachableUnder b g → StepUnder b g g' → ReachableUnder b g'

/-- Every operation keeps the symbols under the brackets of the grammar. -/
theorem StepUnder.isUnder (hstep : StepUnder b g g') (h : IsUnder b g) : IsUnder b g' := by
  cases hstep with
  | push hrule => exact h.push hrule
  | extend hrules => exact h.extend hrules
  | pop index => exact h.popGiven index
  | setStart symbol =>
    obtain ⟨s, hs⟩ := exists_setStart g symbol
    rw [hs]
    exact h.withStart s
  | copy => exact h
  | union hrules hunion => exact h.union hrules hunion
  | difference rules hdifference => exact h.difference hdifference

/-- What is reached under one pair of brackets stores all symbols under it. -/
theorem ReachableUnder.isUnder (h : ReachableUnder b g) : IsUnder b g := by
  induction h with
  | made hmake hb hrules =>
    obtain ⟨s, rfl⟩ := eq_of_make hmake
    exact (IsUnder.collect hb hrules).withStart s
  | step _ hstep ih => exact hstep.isUnder ih

end Reaching

/-- The productions of a grammar that can be reached can all be read, and the classes of the grammar
are those of these productions. The alphabets and the start symbol agree with these productions on
whether a symbol is terminal exactly if the brackets that the symbol is stored with first and those
of the grammar do. They agree on all symbols if no production with other brackets was ever added:
neither a ready-made one, nor one of a grammar with other brackets. -/
theorem Reachable.terminals_agree (h : Reachable g) :
    ∃ b ps, g.conventions.brackets = .text b.text ∧ g.productions = .ok ps ∧
      (∀ c : Class, g.belongs c = .ok (c.holds ps)) ∧
      (∀ s, g.AgreesOn ps s ↔ ∀ a, g.occurrences.find? (· == s) = some a →
        a.isTerminal = (Production.rebracketed a b).isTerminal) ∧
      (ReachableUnder b g → ∀ s, g.AgreesOn ps s) := by
  obtain ⟨husable, L, hL⟩ := h.isSound
  obtain ⟨b, hb⟩ := husable.brackets_valid
  obtain ⟨ps, hps⟩ := hL.exists_productions husable
  refine ⟨b, ps, hb, hps, belongs_eq hps, fun s => agreesOn_iff hb hps, fun hunder s => ?_⟩
  rw [agreesOn_iff hb hps]
  intro a ha
  have hbrackets : a.brackets = b :=
    hunder.isUnder.areUnder_occurrences a (List.mem_of_find?_eq_some ha)
  rw [Production.rebracketed, ← hbrackets]

/-- A grammar that got one production, which carries its brackets. -/
theorem terminals_agree_pushed :
    ∃ g ps, Reachable g ∧ ReachableUnder .square g ∧ g.productions = .ok ps ∧
      (∀ s, g.AgreesOn ps s) ∧ g.terminals.contains ⟨"[a]", .square⟩ = true ∧
      g.nonterminals.contains ⟨"S", .square⟩ = true := by
  let p : Production := ⟨[⟨"S", .square⟩], [⟨"[a]", .square⟩], by simp⟩
  have hmake : (make {} (.given .null) .null).result = .ok (empty {}) := rfl
  have hmade : IsMade (empty {}) :=
    ⟨⟨{}, .given .null, .null, hmake⟩, ⟨.square, rfl⟩, by simp [empty]⟩
  have hreach : Reachable ((empty {}).add p) := .step (.initial hmade) (.push _ (.production p))
  have hp : ∀ q, Datum.production p = .production q → AreUnder .square q.symbols := by
    rintro q ⟨⟩
    simp [AreUnder, p, Production.symbols]
  have hunder : ReachableUnder .square ((empty {}).add p) := by
    have hnone : (Rules.given .null).AreUnder .square := fun elements helements => by
      simp [Datum.elements?] at helements
    exact .step (.made hmake rfl hnone) (.push _ hp)
  obtain ⟨b, ps, hb, hps, -, -, hagree⟩ := hreach.terminals_agree
  obtain rfl : Brackets.square = b := Brackets.text_injective (Datum.text.inj hb)
  exact ⟨_, ps, hreach, hunder, hps, hagree hunder, by decide, by decide⟩

/-- The alphabets and the productions need not agree: a production with other brackets that is
pushed has a terminal that is none in the productions. -/
theorem not_terminals_agree :
    ¬ ∀ g ps, Reachable g → g.productions = .ok ps → ∀ s, g.AgreesOn ps s := by
  intro h
  let angle : Brackets := ⟨'<', '>', rfl, rfl⟩
  let p : Production := ⟨[⟨"S", angle⟩], [⟨"<a>", angle⟩], by simp⟩
  let read : Production := ⟨[⟨"S", .square⟩], [⟨"<a>", .square⟩], by simp⟩
  have hmade : IsMade (empty {}) :=
    ⟨⟨{}, .given .null, .null, rfl⟩, ⟨.square, rfl⟩, by simp [empty]⟩
  have hreach : Reachable ((empty {}).add p) := .step (.initial hmade) (.push _ (.production p))
  have hagrees := h _ [read] hreach rfl ⟨"<a>", .square⟩
  obtain ⟨q, hq, a, ha, -, hterminal⟩ := hagrees.terminals.mp (by decide)
  obtain rfl := List.mem_singleton.mp hq
  have hnone : ∀ a ∈ read.symbols, a.isTerminal = false := by
    simp [read, Production.symbols, Symbol.isTerminal, Brackets.square]
  rw [hnone a ha] at hterminal
  cases hterminal

end Grammar

end PhraseStructure
