import PhraseStructure.Proofs.Grammar.Start

/-!
# Operations that fail

Grammars may be made under brackets that are none, and a table of heads is taken over unchecked, so
that a grammar can hold productions that cannot be read. Whatever it holds, it represents a list of
productions (`exists_represents`). A push or an assignment of the start symbol that fails leaves the
grammar as it was. A removal that fails does so as well, or else it has lost the production it was
to return, for one of three reasons (`LossReason`, `ReachableFrom.failed_operations`). In a grammar
whose productions can all be read there is none of these reasons (`LossReason.not_isUsable`).
-/

namespace PhraseStructure

/-- A production is not made only if its head has no symbol or its brackets are none. -/
theorem Production.eq_of_rewrap_error {head daughters : List Symbol} {brackets : Datum}
    {fault : Fault} (h : Production.rewrap head daughters brackets = .error fault) :
    (fault = .noHead ∧ head = []) ∨
      (fault = .badBrackets .badValue brackets ∧ ∀ b : Brackets, brackets ≠ .text b.text) := by
  unfold Production.rewrap at h
  split at h
  · right
    cases hread : Brackets.read .badValue brackets with
    | ok b =>
      rw [hread] at h
      cases h
    | error fault' =>
      obtain ⟨rfl, hnone⟩ := Brackets.eq_of_read_error hread
      rw [hread] at h
      cases h
      exact ⟨rfl, hnone⟩
  · next hhead =>
    cases h
    exact .inl ⟨rfl, by simpa using hhead⟩

namespace Grammar

variable {g g' : Grammar} {L before after : List (List Symbol × List Symbol)}
  {e : List Symbol × List Symbol} {head : List Symbol} {n : Nat} {fault : Fault}

/-- Made of rules that were accepted, whatever the brackets and the heads are. -/
def IsAccepted (g : Grammar) : Prop :=
  ∃ conventions rules start, (make conventions rules start).result = .ok g

/-- Why a production is not returned that was removed: its head has no symbol, the brackets are
none, or a start symbol is needed and the head it would be taken from has no symbol. -/
inductive LossReason (g rest : Grammar) (e : List Symbol × List Symbol) : Fault → Prop
  | head : e.1 = [] → LossReason g rest e .noHead
  | brackets : (∀ b : Brackets, g.conventions.brackets ≠ .text b.text) →
      LossReason g rest e (.badBrackets .badValue g.conventions.brackets)
  | start : rest.additions.head? = some [] →
      (∀ s ∈ g.start, rest.nonterminals.contains s = false) → LossReason g rest e .outOfRange

section Representing

/-- Only the start symbol is chosen. -/
theorem eq_of_inheritStart {start : Option Symbol} (h : g.inheritStart start = .ok g') :
    ∃ s, g' = { g with start := s } := by
  unfold inheritStart at h
  split at h
  · next s =>
    split at h
    · exact ⟨some s, (Except.ok.inj h).symm⟩
    · obtain ⟨first, -, hg⟩ := bind_eq_ok_iff.mp h
      exact ⟨first, (Except.ok.inj hg).symm⟩
  · obtain ⟨first, -, hg⟩ := bind_eq_ok_iff.mp h
    exact ⟨first, (Except.ok.inj hg).symm⟩

/-- There is no default start symbol only if the first head has no symbol. -/
theorem eq_of_defaultStart_error (h : g.defaultStart = .error fault) :
    fault = .outOfRange ∧ g.additions.head? = some [] := by
  unfold defaultStart at h
  split at h
  · cases h
  · next heads hheads => exact ⟨(Except.error.inj h).symm, by rw [hheads]; rfl⟩
  · cases h

/-- A start symbol cannot be chosen only when it is needed and the first head has no symbol. -/
theorem eq_of_inheritStart_error {start : Option Symbol}
    (h : g.inheritStart start = .error fault) :
    fault = .outOfRange ∧ g.additions.head? = some [] ∧
      ∀ s ∈ start, g.nonterminals.contains s = false := by
  cases hdefault : g.defaultStart with
  | ok first =>
    rw [inheritStart.eq_def, hdefault] at h
    split at h
    · split at h <;> cases h
    · cases h
  | error fault' =>
    obtain ⟨rfl, hfirst⟩ := eq_of_defaultStart_error hdefault
    rw [inheritStart.eq_def, hdefault] at h
    split at h
    · split at h
      · cases h
      · next s hs =>
        refine ⟨(Except.error.inj h).symm, hfirst, fun s' hs' => ?_⟩
        cases hs'
        simpa using hs
    · exact ⟨(Except.error.inj h).symm, hfirst, fun s hs => by cases hs⟩

end Representing

section Removing

/-- A removal that leaves the grammar as it was, or takes away one of its productions and returns
it, unless there is a reason not to. -/
def RemovesOne (g : Grammar) (L : List (List Symbol × List Symbol))
    (removal : Edited Production) : Prop :=
  removal.grammar = g ∨ ∃ before e after, L = before ++ e :: after ∧
    Represents removal.grammar (before ++ after) ∧
    ∀ fault, removal.result = .error fault → LossReason g removal.grammar e fault

/-- A production is removed, and not returned only for one of the reasons. -/
theorem Represents.removeAt_lost (hL : Represents g (before ++ e :: after))
    (he : (e.1 == head) = true) (hn : before.countP (·.1 == head) = n) :
    Represents (g.removeAt head n).grammar (before ++ after) ∧
      ∀ fault, (g.removeAt head n).result = .error fault →
        LossReason g (g.removeAt head n).grammar e fault := by
  have hrest := hL.erase he hn
  have hfound := hL.getElem?_daughtersOf he hn
  cases hstart : (g.erase head n).inheritStart g.start with
  | error fault =>
    obtain ⟨rfl, hfirst, hkept⟩ := eq_of_inheritStart_error hstart
    simp only [Grammar.removeAt, hfound, hstart]
    refine ⟨hrest, fun fault' h => ?_⟩
    cases h
    exact .start hfirst hkept
  | ok rest =>
    obtain ⟨s, rfl⟩ := eq_of_inheritStart hstart
    cases hread : Production.rewrap head e.2 g.conventions.brackets with
    | ok p =>
      simp only [Grammar.removeAt, hfound, hstart, hread]
      exact ⟨hrest.congr rfl rfl, fun fault h => by cases h⟩
    | error fault =>
      simp only [Grammar.removeAt, hfound, hstart, hread]
      refine ⟨hrest.congr rfl rfl, fun fault' h => ?_⟩
      cases h
      rcases Production.eq_of_rewrap_error hread with ⟨rfl, rfl⟩ | ⟨rfl, hnone⟩
      · exact .head (by simpa using he)
      · exact .brackets hnone

/-- A removal takes away one production or none, and fails for one of the reasons only. -/
theorem Represents.removesOne_removeAt (hL : Represents g L) (head : List Symbol) (n : Nat) :
    RemovesOne g L (g.removeAt head n) := by
  cases hd : (g.daughtersOf head)[n]? with
  | none => exact .inl (by simp only [Grammar.removeAt, hd])
  | some d =>
    obtain ⟨before, e, after, rfl, he, hn, -⟩ := hL.exists_of_daughtersOf hd
    exact .inr ⟨before, e, after, rfl, hL.removeAt_lost he hn⟩

/-- Without an index or with one, a removal leaves the grammar as it was or removes a production. -/
theorem Represents.removesOne_popGiven (hL : Represents g L) (index : Datum) :
    RemovesOne g L (g.popGiven index) := by
  rcases exists_popGiven g index with ⟨fault, hsame⟩ | ⟨head, n, hremoved⟩
  · exact .inl (by rw [hsame])
  · rw [hremoved]
    exact hL.removesOne_removeAt head n

/-- A removal keeps the conventions. -/
theorem conventions_removeAt (g : Grammar) (head : List Symbol) (n : Nat) :
    (g.removeAt head n).grammar.conventions = g.conventions := by
  cases hd : (g.daughtersOf head)[n]? with
  | none => simp only [removeAt, hd]
  | some d =>
    cases hstart : (g.erase head n).inheritStart g.start with
    | error fault =>
      simp only [removeAt, hd, hstart]
      rfl
    | ok rest =>
      obtain ⟨s, rfl⟩ := eq_of_inheritStart hstart
      cases hread : Production.rewrap head d g.conventions.brackets with
      | error fault =>
        simp only [removeAt, hd, hstart, hread]
        rfl
      | ok p =>
        simp only [removeAt, hd, hstart, hread]
        rfl

/-- A removal does not change how rules are written. -/
theorem conventions_popGiven (g : Grammar) (index : Datum) :
    (g.popGiven index).grammar.conventions = g.conventions := by
  rcases exists_popGiven g index with ⟨fault, hsame⟩ | ⟨head, n, hremoved⟩
  · rw [hsame]
  · rw [hremoved, conventions_removeAt]

end Removing

/-- Where all productions can be read, none is lost. -/
theorem LossReason.not_isUsable (hL : Represents g (before ++ e :: after))
    (hrest : Represents g' (before ++ after)) (h : LossReason g g' e fault) : ¬g.IsUsable := by
  intro hg
  have hheads : ∀ x ∈ before ++ e :: after, x.1 ≠ [] := by
    intro x hx hnil
    refine hg.heads_ne_nil ?_
    rw [hL.additions_eq]
    exact List.mem_map.mpr ⟨x, hx, hnil⟩
  cases h with
  | head hnil => exact hheads e (by simp) hnil
  | brackets hnone =>
    obtain ⟨b, hb⟩ := hg.brackets_valid
    exact hnone b hb
  | start hfirst =>
    rw [hrest.additions_eq] at hfirst
    obtain ⟨x, hx, hnil⟩ := List.mem_map.mp (List.mem_of_mem_head? hfirst)
    refine hheads x ?_ hnil
    rw [List.mem_append, List.mem_cons]
    rw [List.mem_append] at hx
    tauto

section Reaching

/-- Every operation leaves a grammar that represents some productions. -/
theorem Step.exists_represents (hstep : Step g g') (hL : Represents g L) :
    ∃ L', Represents g' L' := by
  cases hstep with
  | push rule =>
    unfold Grammar.push
    split
    · next p _ => exact ⟨_, hL.addAll [p]⟩
    · exact ⟨L, hL⟩
  | extend rules =>
    obtain ⟨ps, hps⟩ := exists_extend g rules
    exact ⟨_, hps ▸ hL.addAll ps⟩
  | pop index =>
    rcases hL.removesOne_popGiven index with hsame | ⟨before, e, after, -, hrest, -⟩
    · exact ⟨L, hsame.symm ▸ hL⟩
    · exact ⟨_, hrest⟩
  | setStart symbol =>
    obtain ⟨s, hs⟩ := exists_setStart g symbol
    exact ⟨L, hs ▸ hL.congr rfl rfl⟩
  | copy => exact ⟨L, hL⟩
  | union rules hunion =>
    unfold Grammar.union at hunion
    split at hunion
    · cases hunion
    · next readings _ =>
      obtain ⟨_, -, hstart⟩ := bind_eq_ok_iff.mp hunion
      obtain ⟨s, rfl⟩ := eq_of_inheritStart hstart
      obtain ⟨ps, hps, -⟩ := exists_addReadings g.copy readings
      rw [hps]
      exact ⟨_, ((show Represents g.copy L from hL).addAll ps).congr rfl rfl⟩
  | difference rules hdifference =>
    unfold Grammar.difference at hdifference
    split at hdifference
    · cases hdifference
    · next excluded _ =>
      obtain ⟨_, -, hstart⟩ := bind_eq_ok_iff.mp hdifference
      obtain ⟨s, rfl⟩ := eq_of_inheritStart hstart
      obtain ⟨ps, hps, -⟩ :=
        exists_addReadings (empty g.conventions) (withoutProductions excluded g.readings)
      rw [hps]
      exact ⟨_, ((Represents.empty g.conventions).addAll ps).congr rfl rfl⟩

/-- Whatever the brackets and the heads are, a grammar represents a list of productions. -/
theorem ReachableFrom.exists_represents (h : ReachableFrom IsAccepted g) :
    ∃ L, Represents g L := by
  induction h with
  | initial hmade =>
    obtain ⟨conventions, rules, start, hmake⟩ := hmade
    exact (exists_make hmake).1
  | step _ hstep ih =>
    obtain ⟨L, hL⟩ := ih
    exact hstep.exists_represents hL

end Reaching

/-- A rule that is refused changes nothing. -/
theorem push_failed {rule : Datum} (h : (g.push rule).result = .error fault) :
    (g.push rule).grammar = g := by
  unfold push at h ⊢
  split at h
  · cases h
  · rfl

/-- A start symbol that is refused changes nothing. -/
theorem setStart_failed {symbol : Datum} (h : (g.setStart symbol).result = .error fault) :
    (g.setStart symbol).grammar = g := by
  unfold setStart at h ⊢
  split at h
  · rfl
  · split at h
    · cases h
    · next hs => rw [if_neg hs]

/-- In any grammar, a push and an assignment of the start symbol that fail leave everything as it
was. A removal that fails either does so, too, or it has removed a production that it does not
return, and then there is a reason for this; there is none where all productions can be read. -/
theorem ReachableFrom.failed_operations (h : ReachableFrom IsAccepted g) :
    (∀ rule fault, (g.push rule).result = .error fault → (g.push rule).grammar = g) ∧
      (∀ symbol fault, (g.setStart symbol).result = .error fault →
        (g.setStart symbol).grammar = g) ∧
      (∀ index fault, (g.popGiven index).result = .error fault →
        (g.popGiven index).grammar = g ∨
          ∃ before e after, Represents g (before ++ e :: after) ∧
            Represents (g.popGiven index).grammar (before ++ after) ∧
            LossReason g (g.popGiven index).grammar e fault) ∧
      (g.IsUsable → ∀ index fault, (g.popGiven index).result = .error fault →
        (g.popGiven index).grammar = g) := by
  obtain ⟨L, hL⟩ := h.exists_represents
  have hpop : ∀ index fault, (g.popGiven index).result = .error fault →
      (g.popGiven index).grammar = g ∨
        ∃ before e after, Represents g (before ++ e :: after) ∧
          Represents (g.popGiven index).grammar (before ++ after) ∧
          LossReason g (g.popGiven index).grammar e fault := by
    intro index fault hfail
    rcases hL.removesOne_popGiven index with hsame | ⟨before, e, after, rfl, hrest, hreason⟩
    · exact .inl hsame
    · exact .inr ⟨before, e, after, hL, hrest, hreason fault hfail⟩
  refine ⟨fun _ _ hfail => push_failed hfail, fun _ _ hfail => setStart_failed hfail, hpop, ?_⟩
  intro hg index fault hfail
  rcases hpop index fault hfail with hsame | ⟨before, e, after, hbefore, hrest, hreason⟩
  · exact hsame
  · exact absurd hg (hreason.not_isUsable hbefore hrest)

/-- The grammar of a table of two heads, the second of them without a symbol. -/
def headless : Grammar where
  conventions := {}
  buckets := [([⟨"A", .square⟩], [[⟨"[a]", .square⟩]]), ([], [[⟨"b", .square⟩]])]
  additions := [[⟨"A", .square⟩], []]
  start := some ⟨"A", .square⟩

/-- The grammar is made of a table, whose heads are not checked. -/
theorem isAccepted_headless : IsAccepted headless :=
  ⟨{}, .given (.table [(.tuple [.text "A"], .list [.tuple [.text "[a]"]]),
    (.tuple [], .list [.tuple [.text "b"]])]), .null, rfl⟩

/-- The grammar represents the productions of the table in their order. -/
theorem represents_headless :
    Represents headless [([⟨"A", .square⟩], [⟨"[a]", .square⟩]), ([], [⟨"b", .square⟩])] := by
  let first : Production := ⟨[⟨"A", .square⟩], [⟨"[a]", .square⟩], by simp⟩
  have hfirst : Represents ((empty {}).add first) [first.sides] :=
    (Represents.empty {}).addAll [first]
  have hmore : [[(⟨"b", .square⟩ : Symbol)]] ≠ [] := by simp
  exact hfirst.addTo hmore rfl rfl

/-- In that grammar, what is no rule and what is no start symbol changes nothing, but the
production without a head is removed and not returned. -/
theorem failed_operations_headless :
    (headless.push .null).grammar = headless ∧
      (headless.setStart (.text "[a]")).grammar = headless ∧
      Represents (headless.popGiven .null).grammar
        [([⟨"A", .square⟩], [⟨"[a]", .square⟩])] := by
  obtain ⟨hpush, hstart, hpop, -⟩ := ReachableFrom.failed_operations (.initial isAccepted_headless)
  refine ⟨hpush .null _ rfl, hstart (.text "[a]") _ rfl, ?_⟩
  rcases hpop .null .noHead rfl with hsame | ⟨before, e, after, hbefore, hrest, hreason⟩
  · exact absurd (congrArg (fun g => g.additions.length) hsame) (by decide)
  · have hsplit := hbefore.unique represents_headless
    cases hreason with
    | head hnil =>
      rcases before with - | ⟨x, - | ⟨_, before⟩⟩
      · obtain ⟨rfl, -⟩ := List.cons.inj hsplit
        cases hnil
      · obtain ⟨rfl, htail⟩ := List.cons.inj hsplit
        obtain ⟨-, rfl⟩ := List.cons.inj htail
        exact hrest
      · simp at hsplit

/-- An operation that fails need not leave the productions that were there: the last one of that
grammar is lost. -/
theorem not_failed_operations_same :
    ¬ ∀ g, ReachableFrom IsAccepted g →
      (∀ rule fault, (g.push rule).result = .error fault →
        (∀ L, Represents g L → Represents (g.push rule).grammar L) ∧
          (g.push rule).grammar.start = g.start) ∧
      (∀ index fault, (g.popGiven index).result = .error fault →
        (∀ L, Represents g L → Represents (g.popGiven index).grammar L) ∧
          (g.popGiven index).grammar.start = g.start) ∧
      (∀ symbol fault, (g.setStart symbol).result = .error fault →
        (∀ L, Represents g L → Represents (g.setStart symbol).grammar L) ∧
          (g.setStart symbol).grammar.start = g.start) := by
  intro h
  obtain ⟨-, hpop, -⟩ := h headless (.initial isAccepted_headless)
  have hkept := (hpop .null .noHead rfl).1 _ represents_headless
  exact absurd (congrArg List.length hkept.additions_eq) (by decide)

end Grammar

end PhraseStructure
