import PhraseStructure.Proofs.Grammar.Operations

/-!
# Grammars that can be reached

A grammar is made of some rules, and then changed by one operation after another
(`Step`, `ReachableFrom`). Each operation keeps the grammar sound (`Step.isSound`), so that every
grammar that can be reached represents a list of productions, and each operation on it is an
operation on that list (`Reachable.refines`).
-/

namespace PhraseStructure.Grammar

variable {g g' : Grammar} {L : List (List Symbol × List Symbol)} {head : List Symbol} {n : Nat}

/-- One operation on a grammar. What an operation leaves behind that fails counts as well. -/
inductive Step : Grammar → Grammar → Prop
  | push (g : Grammar) (rule : Datum) : Step g (g.push rule).grammar
  | extend (g : Grammar) (rules : Rules) : Step g (g.extend rules).grammar
  | pop (g : Grammar) (index : Datum) : Step g (g.popGiven index).grammar
  | setStart (g : Grammar) (symbol : Datum) : Step g (g.setStart symbol).grammar
  | copy (g : Grammar) : Step g g.copy
  | union {g g' : Grammar} (rules : Rules) : (g.union rules).result = .ok g' → Step g g'
  | difference {g g' : Grammar} (rules : Rules) : (g.difference rules).result = .ok g' → Step g g'

/-- Reached by operations from one of some grammars. -/
inductive ReachableFrom (initial : Grammar → Prop) : Grammar → Prop
  | initial {g : Grammar} : initial g → ReachableFrom initial g
  | step {g g' : Grammar} : ReachableFrom initial g → Step g g' → ReachableFrom initial g'

/-- Made of rules that were accepted, under valid brackets and with a symbol in each head. -/
def IsMade (g : Grammar) : Prop :=
  (∃ conventions rules start, (make conventions rules start).result = .ok g) ∧ g.IsUsable

/-- Reached from a grammar that was made under valid brackets and with a symbol in each head. -/
def Reachable (g : Grammar) : Prop := ReachableFrom IsMade g

/-- The grammar represents productions that can be read. -/
structure IsSound (g : Grammar) : Prop where
  usable : g.IsUsable
  represents : ∃ L, Represents g L

namespace IsSound

/-- The start symbol does not matter for being sound. -/
theorem withStart (h : g.IsSound) (s : Option Symbol) : IsSound { g with start := s } :=
  ⟨⟨h.usable.brackets_valid, h.usable.heads_ne_nil⟩,
    h.represents.imp fun _ hL => hL.congr rfl rfl⟩

/-- Adding productions keeps a grammar sound. -/
theorem addAll (h : g.IsSound) (ps : List Production) : (g.addAll ps).IsSound :=
  ⟨h.usable.addAll ps, h.represents.elim fun _ hL => ⟨_, hL.addAll ps⟩⟩

/-- A removal under a head keeps a grammar sound, whether there is something to be removed or
not. -/
theorem removeAt (h : g.IsSound) (head : List Symbol) (n : Nat) :
    (g.removeAt head n).grammar.IsSound := by
  obtain ⟨L, hL⟩ := h.represents
  cases hd : (g.daughtersOf head)[n]? with
  | none =>
    have hsame : (g.removeAt head n).grammar = g := by simp only [Grammar.removeAt, hd]
    rwa [hsame]
  | some d =>
    obtain ⟨before, e, after, rfl, he, hn, -⟩ := hL.exists_of_daughtersOf hd
    obtain ⟨p, -, -, hrest, husable⟩ := hL.removeAt h.usable he hn
    exact ⟨husable, _, hrest⟩

/-- Popping keeps a grammar sound, whatever is given as the index. -/
theorem popGiven (h : g.IsSound) (index : Datum) : (g.popGiven index).grammar.IsSound := by
  rcases exists_popGiven g index with ⟨fault, hsame⟩ | ⟨head, n, hremoved⟩
  · rwa [hsame]
  · rw [hremoved]
    exact h.removeAt head n

end IsSound

/-- A grammar that is made is sound. -/
theorem IsMade.isSound (h : IsMade g) : g.IsSound := by
  obtain ⟨⟨conventions, rules, start, hmake⟩, husable⟩ := h
  exact ⟨husable, (exists_make hmake).1⟩

/-- Every operation keeps a grammar sound. -/
theorem Step.isSound (hstep : Step g g') (h : g.IsSound) : g'.IsSound := by
  cases hstep with
  | push rule =>
    unfold Grammar.push
    split
    · next p _ => exact h.addAll [p]
    · exact h
  | extend rules =>
    obtain ⟨ps, hps⟩ := exists_extend g rules
    rw [hps]
    exact h.addAll ps
  | pop index => exact h.popGiven index
  | setStart symbol =>
    obtain ⟨s, hs⟩ := exists_setStart g symbol
    rw [hs]
    exact h.withStart s
  | copy => exact h
  | union rules hunion =>
    obtain ⟨ps, hps⟩ := productions_of_union hunion
    obtain ⟨s, hs⟩ := exists_union h.usable hps
    rw [hs] at hunion
    cases hunion
    exact (h.addAll ps).withStart s
  | difference rules hdifference =>
    obtain ⟨ps, s, rfl⟩ := exists_difference h.usable hdifference
    have hempty : (empty g.conventions).IsSound :=
      ⟨⟨h.usable.brackets_valid, by simp [empty]⟩, [], .empty _⟩
    exact (hempty.addAll ps).withStart s

/-- A grammar that can be reached is sound. -/
theorem Reachable.isSound (h : Reachable g) : g.IsSound := by
  induction h with
  | initial hmade => exact hmade.isSound
  | step _ hstep ih => exact hstep.isSound ih

/-- A grammar that can be reached represents exactly one list of productions. A rule that can be
read is accepted and appended to it, and any other rule leaves the grammar as it is. Rules other
than the grammar itself are appended in order if they can all be read, and otherwise up to the first
that cannot. The union appends the others in the order of their iteration. The start symbol and
copying do not matter. Without an index the last production is removed and returned, and with an
index that names the `n`-th production with a head, the `n`-th production with that head. -/
theorem Reachable.refines (h : Reachable g) :
    ∃ L, Represents g L ∧ (∀ L', Represents g L' → L' = L) ∧
      (∀ head, (∃ key ∈ g.heads, (key == head) = true) ↔ ∃ e ∈ L, (e.1 == head) = true) ∧
      (∀ rule p, g.readRule rule = .ok p →
        (g.push rule).result = .ok p ∧ Represents (g.push rule).grammar (L ++ [p.sides])) ∧
      (∀ rule fault, g.readRule rule = .error fault →
        (g.push rule).result = .error fault ∧ (g.push rule).grammar = g) ∧
      (∀ rules ps, rules ≠ .itself → rules.productions g = .ok ps →
        (g.extend rules).result = .ok () ∧
          Represents (g.extend rules).grammar (L ++ ps.map Production.sides)) ∧
      (∀ (rules : Rules) (front : List Production) fault rest, rules ≠ .itself →
        rules.readings g = .ok (front.map .ok ++ .error fault :: rest) →
        (g.extend rules).result = .error fault ∧
          Represents (g.extend rules).grammar (L ++ front.map Production.sides)) ∧
      (∀ rules, ∃ ps : List Production,
        Represents (g.extend rules).grammar (L ++ ps.map Production.sides)) ∧
      (∀ symbol, Represents (g.setStart symbol).grammar L) ∧
      Represents g.copy L ∧
      (∀ rules ps, rules.productions g = .ok ps → ∃ g', (g.union rules).result = .ok g' ∧
        Represents g' (L ++ ps.map Production.sides)) ∧
      (∀ other, Reachable other → ∃ ps g', other.productions = .ok ps ∧
        (g.union (.grammar other)).result = .ok g' ∧
        Represents g' (L ++ ps.map Production.sides)) ∧
      (∀ init e, L = init ++ [e] → ∃ p, (g.pop none).result = .ok p ∧ IsOf p e ∧
        Represents (g.pop none).grammar init) ∧
      ∀ i head n, g.Addresses i head n → ∃ before e after p, L = before ++ e :: after ∧
        (e.1 == head) = true ∧ before.countP (·.1 == head) = n ∧
        (g.pop (some i)).result = .ok p ∧ IsOf p e ∧
        Represents (g.pop (some i)).grammar (before ++ after) := by
  obtain ⟨husable, L, hL⟩ := h.isSound
  have hunion : ∀ rules ps, rules.productions g = .ok ps → ∃ g', (g.union rules).result = .ok g' ∧
      Represents g' (L ++ ps.map Production.sides) := by
    intro rules ps hps
    obtain ⟨s, hs⟩ := exists_union husable hps
    exact ⟨_, hs, (hL.addAll ps).congr rfl rfl⟩
  refine ⟨L, hL, fun L' hL' => hL'.unique hL, fun head => ?_, ?_, ?_, ?_, ?_, ?_, ?_, hL, hunion,
    ?_, ?_, ?_⟩
  · rw [← hL.hasHead_iff]
    simp [HasHead, heads]
  · intro rule p hread
    rw [push_of_readRule_eq_ok hread]
    exact ⟨rfl, hL.addAll [p]⟩
  · intro rule fault hread
    rw [push_of_readRule_eq_error hread]
    exact ⟨rfl, rfl⟩
  · intro rules ps hrules hps
    rw [extend_of_productions hrules hps]
    exact ⟨rfl, hL.addAll ps⟩
  · intro rules front fault rest hrules hreadings
    rw [extend_of_readings hrules hreadings, addReadings_append_error]
    exact ⟨rfl, hL.addAll front⟩
  · intro rules
    obtain ⟨ps, hps⟩ := exists_extend g rules
    exact ⟨ps, hps ▸ hL.addAll ps⟩
  · intro symbol
    obtain ⟨s, hs⟩ := exists_setStart g symbol
    rw [hs]
    exact hL.congr rfl rfl
  · intro other hother
    obtain ⟨husable', L', hL'⟩ := hother.isSound
    obtain ⟨ps, hps⟩ := hL'.exists_productions husable'
    obtain ⟨g', hg', hrep⟩ :=
      hunion (.grammar other) ps ((Rules.productions_grammar g other).trans hps)
    exact ⟨ps, g', hps, hg', hrep⟩
  · rintro init e rfl
    obtain ⟨p, hp, hof, hrest, -⟩ := hL.removeAt husable BEq.rfl rfl
    rw [hL.pop_none]
    exact ⟨p, hp, hof, by simpa using hrest⟩
  · intro i head n hi
    obtain ⟨hpop, d, hd⟩ := hL.pop_some hi
    obtain ⟨before, e, after, rfl, he, hn, -⟩ := hL.exists_of_daughtersOf hd
    obtain ⟨p, hp, hof, hrest, -⟩ := hL.removeAt husable he hn
    rw [hpop]
    exact ⟨before, e, after, p, rfl, he, hn, hp, hof, hrest⟩

/-- A grammar is extended by a text of two rules, and a third rule is pushed, so that another
production stands between two with one head. Productions are counted head by head: the index one
names the last one of the list. A rule without a delimiter is not added. -/
theorem reachable_refines_grouped :
    ∃ g extended pushed s t, Reachable g ∧ Represents g [] ∧
      g.extend (.given (.text "S --> T\nT -->")) = extended ∧ extended.result = .ok () ∧
      Represents extended.grammar [([s], [t]), ([t], [])] ∧
      extended.grammar.push (.text "S -->") = pushed ∧
      (∃ p, pushed.result = .ok p ∧ p.sides = ([s], [])) ∧
      Represents pushed.grammar [([s], [t]), ([t], []), ([s], [])] ∧
      (pushed.grammar.push (.text "S")).grammar = pushed.grammar ∧
      pushed.grammar.Addresses 1 [s] 1 ∧
      Represents (pushed.grammar.pop none).grammar [([s], [t]), ([t], [])] ∧
      Represents (pushed.grammar.pop (some 1)).grammar [([s], [t]), ([t], [])] := by
  let s : Symbol := ⟨"S", .square⟩
  let t : Symbol := ⟨"T", .square⟩
  let first : Production := ⟨[s], [t], by simp⟩
  let second : Production := ⟨[t], [], by simp⟩
  let third : Production := ⟨[s], [], by simp⟩
  let rules : Rules := .given (.text "S --> T\nT -->")
  let extended := (empty {}).extend rules
  let pushed := extended.grammar.push (.text "S -->")
  have hmade : Reachable (empty {}) :=
    .initial ⟨⟨{}, .given .null, .null, rfl⟩, ⟨.square, rfl⟩, by simp [empty]⟩
  have hreach : Reachable extended.grammar := .step hmade (.extend _ rules)
  have hreach' : Reachable pushed.grammar := .step hreach (.push _ (.text "S -->"))
  obtain ⟨L, -, hunique, -, -, -, hextend, -⟩ := hmade.refines
  obtain rfl := hunique [] (.empty {})
  have hrules : rules.productions (empty {}) = .ok [first, second] :=
    Rules.productions_eq_ok_iff.mpr (by cbv)
  obtain ⟨hok, htwo⟩ := hextend rules [first, second] (by simp [rules]) hrules
  obtain ⟨L, -, hunique, -, hpush, -⟩ := hreach.refines
  obtain rfl := hunique _ htwo
  have hextended : extended.grammar = (empty {}).addAll [first, second] :=
    congrArg Edited.grammar (extend_of_productions (by simp [rules]) hrules)
  have hread : extended.grammar.readRule (.text "S -->") = .ok third := by
    rw [hextended]
    cbv
  obtain ⟨hthird, hthree⟩ := hpush (.text "S -->") third hread
  have hthree : Represents pushed.grammar [([s], [t]), ([t], []), ([s], [])] := hthree
  have hpushed : pushed.grammar = (empty {}).addAll [first, second, third] := by
    simp only [pushed, push_of_readRule_eq_ok hread, hextended]
    rfl
  have hunread : pushed.grammar.readRule (.text "S") = .error (.delimiterCount "S" "-->") := by
    rw [hpushed]
    cbv
  have hindex : pushed.grammar.Addresses 1 [s] 1 := by
    rw [hpushed]
    exact ⟨1, [], by decide, rfl, rfl⟩
  obtain ⟨L, -, hunique, -, -, hrefused, -, -, -, -, -, -, -, hlast, hpop⟩ := hreach'.refines
  obtain rfl := hunique _ hthree
  obtain ⟨_, -, -, hinit⟩ := hlast [([s], [t]), ([t], [])] ([s], []) rfl
  obtain ⟨before, e, after, _, hsplit, he, hcount, -, -, hrest⟩ := hpop 1 [s] 1 hindex
  refine ⟨empty {}, extended, pushed, s, t, hmade, .empty {}, rfl, hok, htwo, rfl,
    ⟨third, hthird, rfl⟩, hthree, (hrefused _ _ hunread).2, hindex, hinit, ?_⟩
  have hone : [([s], [t]), ([t], [])].countP (·.1 == [s]) = 1 := by decide
  have hsplit : [([s], [t]), ([t], [])] ++ ([s], []) :: [] = before ++ e :: after := hsplit
  obtain ⟨rfl, rfl, rfl⟩ := eq_of_append_cons_eq (p := (·.1 == [s])) hsplit (by decide) he
    (hone.trans hcount.symm)
  exact hrest

end PhraseStructure.Grammar
