import PhraseStructure.Proofs.Grammar.Represents
import PhraseStructure.Proofs.Outcome

/-!
# What the operations on a grammar do

An operation on a grammar adds some productions to it, one after another (`addAll`), removes one
production (`Represents.removeAt`), or changes the start symbol only. Under valid brackets and with
a symbol in each head (`IsUsable`) no production that is removed is lost, and a start symbol is
always found. Each operation is described by what it does to the list that the grammar represents.
-/

namespace PhraseStructure

/-- Stored symbols can be read again under valid brackets. -/
theorem Production.rewrap_text {head : List Symbol} (hhead : head ≠ []) (daughters : List Symbol)
    (b : Brackets) :
    ∃ p, rewrap head daughters (.text b.text) = .ok p ∧ (p.head == head) = true ∧
      (p.daughters == daughters) = true := by
  have htexts : ∀ symbols : List Symbol, ((symbols.map (rebracketed · b)) == symbols) = true := by
    intro symbols
    rw [Symbol.list_beq_iff, List.map_map]
    rfl
  rw [rewrap, dif_pos hhead, Brackets.read_text]
  exact ⟨_, rfl, htexts head, htexts daughters⟩

/-- The productions of a sequence of rules, when all of them can be read. For a grammar these are
its productions in the order of iteration. -/
def Rules.productions (rules : Rules) (g : Grammar) : Except Fault (List Production) :=
  rules.readings g >>= (·.mapM id)

/-- The productions that a grammar gives as rules are its own. -/
theorem Rules.productions_grammar (g h : Grammar) :
    (Rules.grammar h).productions g = h.productions :=
  rfl

/-- The productions are given if every single one can be read. -/
theorem Rules.productions_eq_ok_iff {rules : Rules} {g : Grammar} {ps : List Production} :
    rules.productions g = .ok ps ↔ rules.readings g = .ok (ps.map .ok) := by
  rw [productions, bind_eq_ok_iff]
  constructor
  · rintro ⟨readings, hreadings, hps⟩
    rw [hreadings, mapM_id_eq_ok_iff.mp hps]
  · intro h
    exact ⟨_, h, mapM_id_eq_ok_iff.mpr rfl⟩

namespace Grammar

variable {g g' : Grammar} {L : List (List Symbol × List Symbol)} {head d : List Symbol} {n : Nat}
  {rules : Rules}

/-- The brackets are valid, and every head has a symbol. -/
structure IsUsable (g : Grammar) : Prop where
  brackets_valid : ∃ b : Brackets, g.conventions.brackets = .text b.text
  heads_ne_nil : [] ∉ g.additions

/-- The grammar with further productions, in this order. -/
def addAll (g : Grammar) (ps : List Production) : Grammar := ps.foldl add g

section Adding

/-- Without productions nothing is added. -/
@[simp] theorem addAll_nil : g.addAll [] = g := rfl

/-- The first production is added before the others. -/
@[simp] theorem addAll_cons (p : Production) (ps : List Production) :
    g.addAll (p :: ps) = (g.add p).addAll ps := rfl

/-- Productions are added under the conventions of the grammar. -/
@[simp] theorem conventions_addAll (ps : List Production) :
    (g.addAll ps).conventions = g.conventions := by
  induction ps generalizing g with
  | nil => rfl
  | cons p ps ih => exact ih

/-- Productions that are added come behind those that the grammar represents. -/
theorem Represents.addAll (h : Represents g L) (ps : List Production) :
    Represents (g.addAll ps) (L ++ ps.map Production.sides) := by
  induction ps generalizing g L with
  | nil => simpa using h
  | cons p ps ih =>
    have hone : [p.daughters] ≠ [] := by simp
    have hadd : Represents (g.add p) (L ++ [p.sides]) := h.addTo hone rfl rfl
    simpa using ih hadd

/-- Adding productions, which all have a symbol in the head, keeps a grammar usable. -/
theorem IsUsable.addAll (h : g.IsUsable) (ps : List Production) : (g.addAll ps).IsUsable := by
  induction ps generalizing g with
  | nil => exact h
  | cons p ps ih =>
    refine ih ⟨h.brackets_valid, ?_⟩
    simpa [add] using ⟨h.heads_ne_nil, p.head_ne_nil⟩

/-- A rule that can be read is added. -/
theorem push_of_readRule_eq_ok {rule : Datum} {p : Production} (h : g.readRule rule = .ok p) :
    g.push rule = ⟨g.add p, [addedEntry p], .ok p⟩ := by
  rw [push, h]

/-- A rule that cannot be read leaves the grammar as it is. -/
theorem push_of_readRule_eq_error {rule : Datum} {fault : Fault}
    (h : g.readRule rule = .error fault) : g.push rule = ⟨g, [], .error fault⟩ := by
  rw [push, h]

/-- Productions that can all be read are all added. -/
theorem addReadings_map_ok (ps : List Production) :
    g.addReadings (ps.map .ok) = ⟨g.addAll ps, ps.map addedEntry, .ok ()⟩ := by
  induction ps generalizing g with
  | nil => rfl
  | cons p ps ih => simp [addReadings, ih]

/-- Readings are added up to the first that failed. -/
theorem addReadings_append_error {fault : Fault} (front : List Production)
    (rest : List (Except Fault Production)) :
    g.addReadings (front.map .ok ++ .error fault :: rest) =
      ⟨g.addAll front, front.map addedEntry, .error fault⟩ := by
  induction front generalizing g with
  | nil => rfl
  | cons p front ih =>
    rw [List.map_cons, List.cons_append, addReadings, ih, addAll_cons, List.map_cons]

/-- Only productions are added, up to the first that cannot be read. -/
theorem exists_addReadings (g : Grammar) (readings : List (Except Fault Production)) :
    ∃ ps, (g.addReadings readings).grammar = g.addAll ps ∧
      ((g.addReadings readings).result = .ok () → readings = ps.map .ok) := by
  induction readings generalizing g with
  | nil => exact ⟨[], rfl, fun _ => rfl⟩
  | cons reading readings ih =>
    cases reading with
    | error fault => exact ⟨[], rfl, fun h => nomatch h⟩
    | ok p =>
      obtain ⟨ps, hgrammar, hresult⟩ := ih (g.add p)
      exact ⟨p :: ps, hgrammar, fun h => by rw [hresult h, List.map_cons]⟩

/-- A grammar that is read while it grows is only added to. -/
theorem exists_growFrom {budget : Nat} {c : Cursor} {edited : Edited Unit}
    (h : g.growFrom budget c = some edited) : ∃ ps, edited.grammar = g.addAll ps := by
  induction budget generalizing g c edited with
  | zero => exact nomatch h
  | succ budget ih =>
    rw [growFrom] at h
    split at h
    · cases h
      exact ⟨[], rfl⟩
    · split at h
      · cases h
        exact ⟨[], rfl⟩
      · next p _ =>
        obtain ⟨later, hlater, rfl⟩ := Option.map_eq_some_iff.mp h
        obtain ⟨ps, hps⟩ := ih hlater
        exact ⟨p :: ps, hps⟩

/-- Rules other than the grammar itself are all read under its conventions before one of them is
added. -/
theorem extend_of_readings {readings : List (Except Fault Production)} (hrules : rules ≠ .itself)
    (h : rules.readings g = .ok readings) : g.extend rules = g.addReadings readings := by
  cases rules with
  | itself => exact absurd rfl hrules
  | given value => simp only [extend, h]
  | grammar x => simp only [extend, h]

/-- An extension by rules that can all be read succeeds and adds their productions in order. -/
theorem extend_of_productions {ps : List Production} (hrules : rules ≠ .itself)
    (h : rules.productions g = .ok ps) :
    g.extend rules = ⟨g.addAll ps, ps.map addedEntry, .ok ()⟩ := by
  rw [extend_of_readings hrules (Rules.productions_eq_ok_iff.mp h), addReadings_map_ok]

/-- Whatever a grammar is extended by, productions are added to it and nothing else happens. -/
theorem exists_extend (g : Grammar) (rules : Rules) :
    ∃ ps, (g.extend rules).grammar = g.addAll ps := by
  have hother : ∀ readings, ∃ ps, (g.addReadings readings).grammar = g.addAll ps :=
    fun readings => (exists_addReadings g readings).imp fun _ h => h.1
  unfold extend
  split
  · unfold extendByItself
    cases hgrown : g.growFrom (g.size + 1) ⟨0, 0⟩ with
    | none => exact ⟨[], rfl⟩
    | some edited => exact exists_growFrom hgrown
  · split
    · exact hother _
    · exact ⟨[], rfl⟩

end Adding

section Start

/-- With a symbol in each head, there is a default start symbol. -/
theorem exists_defaultStart (h : [] ∉ g.additions) : ∃ s, g.defaultStart = .ok s := by
  unfold defaultStart
  split
  · exact ⟨_, rfl⟩
  · next heads hheads => simp [hheads] at h
  · exact ⟨_, rfl⟩

/-- There is always a start symbol to go on with. -/
theorem exists_inheritStart (h : [] ∉ g.additions) (start : Option Symbol) :
    ∃ s, g.inheritStart start = .ok { g with start := s } := by
  obtain ⟨first, hfirst⟩ := exists_defaultStart h
  unfold inheritStart
  split
  · next s =>
    split
    · exact ⟨some s, rfl⟩
    · exact ⟨first, by simp [hfirst]⟩
  · exact ⟨first, by simp [hfirst]⟩

/-- Setting the start symbol changes nothing else. -/
theorem exists_setStart (g : Grammar) (symbol : Datum) :
    ∃ s, (g.setStart symbol).grammar = { g with start := s } := by
  unfold setStart
  split
  · exact ⟨g.start, rfl⟩
  · split
    · exact ⟨_, rfl⟩
    · exact ⟨g.start, rfl⟩

end Start

section Removing

/-- The production has these sides, whatever brackets its symbols carry. -/
def IsOf (p : Production) (e : List Symbol × List Symbol) : Prop :=
  (p.head == e.1) = true ∧ (p.daughters == e.2) = true

/-- An index names the production that `n` others with the same head precede. -/
def Addresses (g : Grammar) (i : Int) (head : List Symbol) (n : Nat) : Prop :=
  ∃ k d, resolveIndex g.pairs.length i = some k ∧ g.pairs[k]? = some (head, d) ∧
    (g.pairs.take k).countP (·.1 == head) = n

/-- Under its head, a production is found behind those with the same head that were added before
it. -/
theorem Represents.getElem?_daughtersOf {before after : List (List Symbol × List Symbol)}
    {e : List Symbol × List Symbol} (h : Represents g (before ++ e :: after))
    (he : (e.1 == head) = true) (hn : before.countP (·.1 == head) = n) :
    (g.daughtersOf head)[n]? = some e.2 := by
  rw [List.countP_eq_length_filter] at hn
  rw [h.daughtersOf_eq, List.filter_append, List.map_append,
    List.getElem?_append_right (by simp [hn])]
  simp [hn, he]

/-- What stands in a bucket is a production of the list. -/
theorem Represents.exists_of_daughtersOf (h : Represents g L)
    (hd : (g.daughtersOf head)[n]? = some d) :
    ∃ before e after, L = before ++ e :: after ∧ (e.1 == head) = true ∧
      before.countP (·.1 == head) = n ∧ e.2 = d := by
  rw [h.daughtersOf_eq, List.getElem?_map, Option.map_eq_some_iff] at hd
  obtain ⟨e, hfound, hd⟩ := hd
  obtain ⟨before, after, hL, hn, he⟩ := exists_of_getElem?_filter hfound
  exact ⟨before, e, after, hL, he, hn, hd⟩

/-- A production is made of what was found under the head, and only the start symbol is chosen
anew. -/
theorem removeAt_eq {p : Production} (hd : (g.daughtersOf head)[n]? = some d)
    (hheads : [] ∉ (g.erase head n).additions)
    (hp : Production.rewrap head d g.conventions.brackets = .ok p) :
    ∃ s, g.removeAt head n = ⟨{ g.erase head n with start := s }, [removedEntry p], .ok p⟩ := by
  obtain ⟨s, hs⟩ := exists_inheritStart hheads g.start
  exact ⟨s, by simp only [removeAt, hd, hs, hp]⟩

/-- Removing the `n`-th production with a head succeeds and returns it, and the others stay. -/
theorem Represents.removeAt {before after : List (List Symbol × List Symbol)}
    {e : List Symbol × List Symbol} (h : Represents g (before ++ e :: after)) (hg : g.IsUsable)
    (he : (e.1 == head) = true) (hn : before.countP (·.1 == head) = n) :
    ∃ p, (g.removeAt head n).result = .ok p ∧ IsOf p e ∧
      Represents (g.removeAt head n).grammar (before ++ after) ∧
      (g.removeAt head n).grammar.IsUsable := by
  have hrest := h.erase he hn
  have hheads : [] ∉ (g.erase head n).additions := by
    have hall := hg.heads_ne_nil
    rw [h.additions_eq, List.map_append, List.map_cons, List.mem_append, List.mem_cons] at hall
    rw [hrest.additions_eq, List.map_append, List.mem_append]
    tauto
  have hhead : head ≠ [] := by
    rintro rfl
    have hnil : e.1 = [] := by simpa using he
    refine hg.heads_ne_nil ?_
    rw [h.additions_eq]
    exact List.mem_map.mpr ⟨e, by simp, hnil⟩
  obtain ⟨b, hb⟩ := hg.brackets_valid
  obtain ⟨p, hp, hsame, hdaughters⟩ := Production.rewrap_text hhead e.2 b
  obtain ⟨s, hremoved⟩ := removeAt_eq (h.getElem?_daughtersOf he hn) hheads (hb ▸ hp)
  rw [hremoved]
  exact ⟨p, rfl, ⟨BEq.trans hsame (BEq.symm he), hdaughters⟩, hrest.congr rfl rfl,
    ⟨hg.brackets_valid, hheads⟩⟩

/-- Without an index, the production is removed that was added last. -/
theorem Represents.pop_none {init : List (List Symbol × List Symbol)}
    {e : List Symbol × List Symbol} (h : Represents g (init ++ [e])) :
    g.pop none = g.removeAt e.1 (init.countP (·.1 == e.1)) := by
  have hlast : g.additions.getLast? = some e.1 := by simp [h.additions_eq]
  have hcount : (g.daughtersOf e.1).length - 1 = init.countP (·.1 == e.1) := by
    rw [h.daughtersOf_eq, List.length_map, ← List.countP_eq_length_filter, List.countP_append]
    simp
  simp only [pop, hlast, hcount]

/-- With an index, the production is removed that it names. -/
theorem Represents.pop_some (h : Represents g L) {i : Int} (hi : g.Addresses i head n) :
    g.pop (some i) = g.removeAt head n ∧ ∃ d, (g.daughtersOf head)[n]? = some d := by
  obtain ⟨k, d, hk, hpair, hn⟩ := hi
  have hfound := locateIn_eq_some h.headsDiffer hpair hn
  have hlocate : g.locate i = some (head, n) := by
    rw [pairs, ← pairsIn, length_pairsIn, ← size] at hk
    simp only [resolveIndex, Option.ite_none_right_eq_some, Option.some.injEq] at hk
    obtain ⟨⟨hlow, -⟩, rfl⟩ := hk
    rw [locate, if_neg (by omega)]
    exact hfound.1
  exact ⟨by simp only [pop, hlocate], d, hfound.2⟩

/-- A production is removed from its place under a head, or nothing happens. -/
theorem exists_popGiven (g : Grammar) (index : Datum) :
    (∃ fault, g.popGiven index = ⟨g, [], .error fault⟩) ∨
      ∃ head n, g.popGiven index = g.removeAt head n := by
  have hpop : ∀ i : Option Int, (∃ fault, g.pop i = ⟨g, [], .error fault⟩) ∨
      ∃ head n, g.pop i = g.removeAt head n := by
    intro i
    unfold pop
    split
    · split
      · exact .inl ⟨_, rfl⟩
      · exact .inr ⟨_, _, rfl⟩
    · split
      · exact .inl ⟨_, rfl⟩
      · exact .inr ⟨_, _, rfl⟩
  unfold popGiven
  split
  · exact hpop none
  · split
    · exact hpop _
    · exact .inl ⟨_, rfl⟩
    · exact .inl ⟨_, rfl⟩

end Removing

/-- Under valid brackets, and with a symbol in each head, every production can be read. -/
theorem Represents.exists_productions (h : Represents g L) (hg : g.IsUsable) :
    ∃ ps, g.productions = .ok ps := by
  obtain ⟨b, hb⟩ := hg.brackets_valid
  have hread : ∀ pair ∈ g.pairs, ∃ p,
      Production.rewrap pair.1 pair.2 g.conventions.brackets = .ok p := by
    intro pair hpair
    have hhead : pair.1 ≠ [] := by
      intro hnil
      obtain ⟨e, he, hsame⟩ := h.hasHead_iff.mp (hasHead_of_mem_pairsIn hpair)
      refine hg.heads_ne_nil ?_
      rw [h.additions_eq]
      exact List.mem_map.mpr ⟨e, he, by simpa [hnil] using hsame⟩
    obtain ⟨p, hp, -⟩ := Production.rewrap_text hhead pair.2 b
    exact ⟨p, hb ▸ hp⟩
  obtain ⟨ps, hps⟩ := exists_map_eq_ok hread
  exact ⟨ps, mapM_id_eq_ok_iff.mpr hps⟩

section Combining

/-- The start symbol of a union is chosen when all productions have been added. -/
theorem result_union {ps : List Production} (hps : rules.productions g = .ok ps) :
    (g.union rules).result = (g.addAll ps).inheritStart (g.start <|> rules.start? g) := by
  have hcopy : g.copy = g := rfl
  simp only [union, Rules.productions_eq_ok_iff.mp hps, hcopy, addReadings_map_ok]
  rfl

/-- The union with readable productions adds these. -/
theorem exists_union (hg : g.IsUsable) {ps : List Production}
    (hps : rules.productions g = .ok ps) :
    ∃ s, (g.union rules).result = .ok { g.addAll ps with start := s } := by
  obtain ⟨s, hs⟩ := exists_inheritStart (hg.addAll ps).heads_ne_nil (g.start <|> rules.start? g)
  exact ⟨s, (result_union hps).trans hs⟩

/-- The start symbol of a difference is chosen when the productions that are left have been
added. -/
theorem result_difference {ps excluded : List Production} (hps : g.productions = .ok ps)
    (hexcluded : rules.productions g = .ok excluded) : (g.difference rules).result =
      ((empty g.conventions).addAll (ps.filter (!excluded.contains ·))).inheritStart g.start := by
  have hreadings : g.readings = ps.map .ok := mapM_id_eq_ok_iff.mp hps
  have hkept : withoutProductions excluded g.readings =
      (ps.filter (!excluded.contains ·)).map .ok := by
    rw [hreadings, withoutProductions, List.filter_map]
    rfl
  rw [Rules.productions] at hexcluded
  simp only [difference, hexcluded, hkept, addReadings_map_ok]
  rfl

/-- The union with readable productions holds these behind its own. -/
theorem Represents.exists_union (hL : Represents g L) (hg : g.IsUsable) {ps : List Production}
    (hps : rules.productions g = .ok ps) :
    ∃ u, (g.union rules).result = .ok u ∧ Represents u (L ++ ps.map Production.sides) ∧
      u.IsUsable ∧ u.conventions = g.conventions := by
  obtain ⟨s, hs⟩ := Grammar.exists_union hg hps
  have husable := hg.addAll ps
  exact ⟨_, hs, (hL.addAll ps).congr rfl rfl, ⟨husable.brackets_valid, husable.heads_ne_nil⟩,
    conventions_addAll ps⟩

/-- The difference from readable productions holds those that do not occur among them, filled in
again one after another. -/
theorem exists_represents_difference (hg : g.IsUsable) {ps excluded : List Production}
    (hps : g.productions = .ok ps) (hexcluded : rules.productions g = .ok excluded) :
    ∃ d, (g.difference rules).result = .ok d ∧
      Represents d ((ps.filter (!excluded.contains ·)).map Production.sides) ∧
      d.buckets = ((empty g.conventions).addAll (ps.filter (!excluded.contains ·))).buckets ∧
      d.IsUsable ∧ d.conventions = g.conventions := by
  have hempty : (empty g.conventions).IsUsable := ⟨hg.brackets_valid, by simp [empty]⟩
  have husable := hempty.addAll (ps.filter (!excluded.contains ·))
  have hkept := (Represents.empty g.conventions).addAll (ps.filter (!excluded.contains ·))
  obtain ⟨s, hs⟩ := exists_inheritStart husable.heads_ne_nil g.start
  exact ⟨_, (result_difference hps hexcluded).trans hs, hkept.congr rfl rfl, rfl,
    ⟨husable.brackets_valid, husable.heads_ne_nil⟩, conventions_addAll _⟩

/-- A union adds all productions that were given. -/
theorem productions_of_union (h : (g.union rules).result = .ok g') :
    ∃ ps, rules.productions g = .ok ps := by
  unfold union at h
  split at h
  · exact nomatch h
  · next readings hreadings =>
    obtain ⟨_, hadded, -⟩ := bind_eq_ok_iff.mp h
    obtain ⟨ps, -, hps⟩ := exists_addReadings g.copy readings
    exact ⟨ps, Rules.productions_eq_ok_iff.mpr (by rw [hreadings, hps hadded])⟩

/-- A difference consists of productions that were read from the grammar. -/
theorem exists_difference (hg : g.IsUsable) (h : (g.difference rules).result = .ok g') :
    ∃ ps s, g' = { (empty g.conventions).addAll ps with start := s } := by
  unfold difference at h
  split at h
  · exact nomatch h
  · obtain ⟨_, -, hstart⟩ := bind_eq_ok_iff.mp h
    obtain ⟨ps, hps, -⟩ :=
      exists_addReadings (empty g.conventions) (withoutProductions _ g.readings)
    have hempty : (empty g.conventions).IsUsable := ⟨hg.brackets_valid, by simp [empty]⟩
    rw [hps] at hstart
    obtain ⟨s, hs⟩ := exists_inheritStart (hempty.addAll ps).heads_ne_nil g.start
    rw [hs] at hstart
    exact ⟨ps, s, (Except.ok.inj hstart).symm⟩

end Combining

section Making

/-- A value that stands for something has an element, if it has elements at all. -/
theorem elements_ne_nil {d : Datum} {elements : List Datum} (hd : d.isVoid = false)
    (h : d.elements? = some elements) : elements ≠ [] := by
  rintro rfl
  cases d <;> simp_all [Datum.isVoid, Datum.elements?]

/-- There is something under a head that is taken over. -/
theorem daughters_ne_nil {bucket brackets : Datum} {elements : List Datum}
    {daughters : List (List Symbol)} (hbucket : bucket.isVoid = false)
    (helements : bucket.elements? = some elements)
    (h : elements.mapM (Production.readSide · brackets) = .ok daughters) : daughters ≠ [] := by
  have hlength := (mapM_eq_ok_iff.mp h).length_eq
  have := elements_ne_nil hbucket helements
  rintro rfl
  simp_all

/-- Buckets that are taken over come behind the others. -/
theorem Represents.addEntries (h : Represents g L) {entries : List (Datum × Datum)}
    (hok : g.addEntries entries = .ok g') :
    ∃ more, Represents g' (L ++ more) ∧ g'.conventions = g.conventions := by
  induction entries generalizing g L with
  | nil =>
    obtain rfl : g = g' := Except.ok.inj hok
    exact ⟨[], by simpa using h, rfl⟩
  | cons entry rest ih =>
    obtain ⟨key, bucket⟩ := entry
    rw [Grammar.addEntries] at hok
    split at hok
    · exact ih h hok
    · next hbucket =>
      obtain ⟨head, -, hok⟩ := bind_eq_ok_iff.mp hok
      split at hok
      · next elements helements =>
        obtain ⟨daughters, hdaughters, hok⟩ := bind_eq_ok_iff.mp hok
        have hne : daughters ≠ [] := daughters_ne_nil (by simpa using hbucket) helements hdaughters
        obtain ⟨more, hmore, hconventions⟩ := ih (h.addTo hne rfl rfl) hok
        exact ⟨_, by simpa using hmore, hconventions⟩
      · exact nomatch hok

/-- Rules in a list that can all be read are all added. -/
theorem collect_list {conventions : Conventions} {elements : List Datum} {ps : List Production}
    (h : elements.map (empty conventions).readRule = ps.map .ok) :
    collect conventions (.given (.list elements)) =
      ⟨(empty conventions).addAll ps, ps.map addedEntry, .ok ()⟩ := by
  have hreadings : (Rules.given (.list elements)).readings (empty conventions) =
      .ok (ps.map .ok) := congrArg Except.ok h
  exact extend_of_productions (by simp) (Rules.productions_eq_ok_iff.mpr hreadings)

/-- Rules that are collected make a grammar that represents something, under the conventions that
are given. -/
theorem exists_collect (conventions : Conventions) (rules : Rules) :
    (∃ L, Represents (collect conventions rules).grammar L) ∧
      (collect conventions rules).grammar.conventions = conventions := by
  have hempty := Represents.empty conventions
  unfold collect
  split
  · exact ⟨⟨[], hempty⟩, rfl⟩
  · next entries =>
    unfold ofEntries
    split
    · exact ⟨⟨[], hempty⟩, rfl⟩
    · next g hg =>
      obtain ⟨more, hmore, hconventions⟩ := hempty.addEntries hg
      exact ⟨⟨_, hmore⟩, hconventions⟩
  · obtain ⟨ps, hps⟩ := exists_extend (empty conventions) rules
    rw [hps]
    exact ⟨⟨_, hempty.addAll ps⟩, by simp [empty]⟩

/-- The grammar with the start symbol that is given, or with the default one. -/
def chooseStart (g : Grammar) (start : Datum) : Except Fault Grammar :=
  match start with
  | .null => do return { g with start := ← g.defaultStart }
  | _ => do
      (g.setStart start).result
      return (g.setStart start).grammar

/-- The rules are collected, and then the start symbol is chosen. -/
theorem result_make (conventions : Conventions) (rules : Rules) (start : Datum) :
    (make conventions rules start).result = ((collect conventions rules).result >>= fun _ =>
      (collect conventions rules).grammar.chooseStart start) := by
  cases start <;> rfl

/-- Choosing a start symbol changes nothing else. -/
theorem eq_of_chooseStart {start : Datum} (h : g.chooseStart start = .ok g') :
    ∃ s, g' = { g with start := s } := by
  unfold chooseStart at h
  split at h
  · obtain ⟨s, -, hg⟩ := bind_eq_ok_iff.mp h
    exact ⟨s, (Except.ok.inj hg).symm⟩
  · obtain ⟨_, -, hg⟩ := bind_eq_ok_iff.mp h
    obtain ⟨s, hs⟩ := exists_setStart g start
    cases hg
    exact ⟨s, hs⟩

/-- A grammar that is made holds what was collected. -/
theorem eq_of_make {conventions : Conventions} {start : Datum}
    (h : (make conventions rules start).result = .ok g) :
    ∃ s, g = { (collect conventions rules).grammar with start := s } := by
  rw [result_make] at h
  obtain ⟨_, -, hchosen⟩ := bind_eq_ok_iff.mp h
  exact eq_of_chooseStart hchosen

/-- A grammar that is made represents some productions. -/
theorem exists_make {conventions : Conventions} {start : Datum}
    (h : (make conventions rules start).result = .ok g) :
    (∃ L, Represents g L) ∧ g.conventions = conventions := by
  obtain ⟨⟨L, hL⟩, hconventions⟩ := exists_collect conventions rules
  obtain ⟨s, rfl⟩ := eq_of_make h
  exact ⟨⟨L, hL.congr rfl rfl⟩, hconventions⟩

end Making

end Grammar

end PhraseStructure
