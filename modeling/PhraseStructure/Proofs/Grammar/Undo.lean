import PhraseStructure.Proofs.Grammar.Start

/-!
# Undoing an addition

The production that was added last is the one that is removed without an index, and its removal
leaves the buckets and the heads that were there before it was added (`Represents.erase_add`). The
start symbol is chosen anew by the removal. It is the one from before exactly if that one had been
chosen in the same way (`inheritStart_start_iff`, `Reachable.pop_push`), which it was not in a
grammar that got its first production by an addition.
-/

namespace PhraseStructure.Grammar

variable {g : Grammar} {L : List (List Symbol × List Symbol)} {head d : List Symbol}
  {buckets : List Bucket} {rule : Datum} {p : Production}

/-- The last daughters under a head are removed again. -/
theorem eraseFrom_addTo (h : NoneEmpty buckets) :
    eraseFrom head (lookup head buckets).length (addTo head [d] buckets) = buckets := by
  induction buckets with
  | nil => simp [addTo, eraseFrom, lookup]
  | cons bucket rest ih =>
    rw [NoneEmpty, List.forall_mem_cons] at h
    by_cases hhead : (bucket.1 == head) = true
    · have hlast : (bucket.2 ++ [d]).eraseIdx bucket.2.length = bucket.2 := by
        simp [List.eraseIdx_append_of_length_le]
      simp [addTo, eraseFrom, lookup, hhead, hlast, h.1]
    · simp [addTo, eraseFrom, lookup, hhead, ih h.2]

/-- A production that is added is the last one with its head. -/
theorem Represents.erase_add (h : Represents g L) (p : Production) :
    (g.add p).erase p.head (L.countP (·.1 == p.head)) = g := by
  have hcount : (lookup p.head g.buckets).length = L.countP (·.1 == p.head) := by
    rw [← daughtersOf, h.daughtersOf_eq, List.length_map, List.countP_eq_length_filter]
  have hbuckets : eraseFrom p.head (L.countP (·.1 == p.head)) (g.add p).buckets = g.buckets :=
    hcount ▸ eraseFrom_addTo h.noneEmpty
  have hadditions : forget p.head (L.countP (·.1 == p.head)) (g.add p).additions = g.additions := by
    have hheads : (L.map Prod.fst).countP (· == p.head) = L.countP (·.1 == p.head) := by
      rw [List.countP_map]
      rfl
    rw [add, h.additions_eq, forget_append BEq.rfl hheads, List.append_nil]
  rw [Grammar.erase, hbuckets, hadditions]
  rfl

/-- The start symbol is kept exactly if it had been chosen. -/
theorem inheritStart_start_iff : g.inheritStart g.start = .ok g ↔ g.HasChosenStart := by
  refine ⟨hasChosenStart_of_inheritStart, fun h => ?_⟩
  obtain ⟨conventions, buckets, additions, start⟩ := g
  cases start with
  | none =>
    obtain ⟨s, hs, -⟩ | hdefault := h
    · exact nomatch hs
    · simp [inheritStart, hdefault]
  | some s =>
    by_cases hs : nonterminals ⟨conventions, buckets, additions, some s⟩ |>.contains s
    · simp only [inheritStart, hs, if_true]
      rfl
    · obtain ⟨s', hs', hcontains⟩ | hdefault := h
      · cases hs'
        exact absurd hcontains hs
      · simp [inheritStart, hs, hdefault]

/-- What was added is removed, and the start symbol is chosen anew. -/
theorem Reachable.pop_add (h : Reachable g) (p : Production) :
    ∃ q s, ((g.add p).pop none).result = .ok q ∧ (q == p) = true ∧
      ((g.add p).pop none).grammar = { g with start := s } ∧
      g.inheritStart g.start = .ok { g with start := s } := by
  obtain ⟨husable, L, hL⟩ := h.isSound
  have hadded : Represents (g.add p) (L ++ [p.sides]) := hL.addAll [p]
  obtain ⟨s, hs⟩ := exists_inheritStart husable.heads_ne_nil g.start
  obtain ⟨b, hb⟩ := husable.brackets_valid
  obtain ⟨q, hq, hhead, hdaughters⟩ := Production.rewrap_text p.head_ne_nil p.daughters b
  have hlast : (g.add p).pop none = (g.add p).removeAt p.head (L.countP (·.1 == p.head)) :=
    hadded.pop_none
  have hfound : ((g.add p).daughtersOf p.head)[L.countP (·.1 == p.head)]? = some p.daughters :=
    hadded.getElem?_daughtersOf BEq.rfl rfl
  have hremoved : (g.add p).pop none = ⟨{ g with start := s }, [removedEntry q], .ok q⟩ := by
    have hadd : (g.add p).conventions = g.conventions ∧ (g.add p).start = g.start := ⟨rfl, rfl⟩
    rw [hlast, removeAt]
    simp only [hfound, hL.erase_add p, hadd, hs, hb, hq]
  exact ⟨q, s, by rw [hremoved], Production.beq_iff.mpr ⟨hhead, hdaughters⟩, by rw [hremoved], hs⟩

/-- Symbols with one text are stored with one pair of brackets. -/
def HasUniformBrackets (g : Grammar) : Prop :=
  ∀ a ∈ g.occurrences, ∀ b ∈ g.occurrences, (a == b) = true → a.brackets = b.brackets

/-- Under uniform brackets a start symbol had been chosen, unless it is missing although there are
productions. -/
theorem Reachable.hasChosenStart_iff (h : Reachable g) (hg : g.HasUniformBrackets) :
    g.HasChosenStart ↔ (g.start = none → g.size = 0) := by
  obtain ⟨L, hL⟩ := h.isSound.represents
  rw [hL.size_eq_zero_iff]
  refine ⟨HasChosenStart.additions_eq_nil, fun hnone => ?_⟩
  cases hstart : g.start with
  | none => exact .inr (hstart ▸ defaultStart_eq_none_iff.mpr (hnone hstart))
  | some s =>
    obtain hdefault | ⟨a, ha, heq, hnon⟩ := h.startFits.occurs s hstart
    · exact .inr (hstart ▸ hdefault)
    · exact .inl ⟨s, hstart, contains_nonterminals ha heq hnon fun b hb => hg b hb a ha⟩

/-- Pushing a rule and popping it again returns an equal production, and leaves the buckets and the
order of addition as they were. The start symbol is chosen anew: it is the one from before exactly
if that one had been chosen, and under uniform brackets exactly if it is not missing in a grammar
with productions. -/
theorem Reachable.pop_push (h : Reachable g) (hpush : (g.push rule).result = .ok p) :
    ∃ q s, ((g.push rule).grammar.pop none).result = .ok q ∧ (q == p) = true ∧
      ((g.push rule).grammar.pop none).grammar = { g with start := s } ∧
      g.inheritStart g.start = .ok { g with start := s } ∧
      (s = g.start ↔ g.HasChosenStart) ∧
      (g.HasUniformBrackets → (s = g.start ↔ (g.start = none → g.size = 0))) := by
  have hadded : (g.push rule).grammar = g.add p := by
    unfold push at hpush ⊢
    split at hpush
    · cases hpush
      rfl
    · exact nomatch hpush
  obtain ⟨q, s, hq, heq, hgrammar, hstart⟩ := h.pop_add p
  have hchosen : s = g.start ↔ g.HasChosenStart := by
    rw [← inheritStart_start_iff, hstart]
    constructor
    · rintro rfl
      rfl
    · intro hsame
      exact congrArg start (Except.ok.inj hsame)
  rw [hadded]
  exact ⟨q, s, hq, heq, hgrammar, hstart, hchosen,
    fun hg => hchosen.trans (h.hasChosenStart_iff hg)⟩

/-- A grammar that was made of a production, and a second one with the same head. -/
theorem pop_push_made :
    ∃ g rule p q, Reachable g ∧ g.start ≠ none ∧ (g.push rule).result = .ok p ∧
      ((g.push rule).grammar.pop none).result = .ok q ∧ (q == p) = true ∧
      ((g.push rule).grammar.pop none).grammar = g := by
  let s : Symbol := ⟨"S", .square⟩
  let first : Production := ⟨[s], [s], by simp⟩
  let second : Production := ⟨[s], [], by simp⟩
  let g : Grammar := { (empty {}).add first with start := some s }
  have hmade : IsMade g :=
    ⟨⟨{}, .given (.list [.production first]), .null, rfl⟩, ⟨.square, rfl⟩,
      by simp [empty, g, add, first]⟩
  have hpush : (g.push (.production second)).result = .ok second := rfl
  obtain ⟨q, start, hq, heq, hgrammar, -, hkept, -⟩ := Reachable.pop_push (.initial hmade) hpush
  obtain rfl : start = g.start := hkept.mpr (.inr rfl)
  exact ⟨g, _, second, q, .initial hmade, Option.some_ne_none s, hpush, hq, heq, hgrammar⟩

/-- The start symbol need not be the one from before: a grammar that was made without productions
and got one has none, and has one after a second production was pushed and popped. -/
theorem not_pop_push_start_eq :
    ¬ ∀ g rule p, Reachable g → (g.push rule).result = .ok p →
      ((g.push rule).grammar.pop none).grammar.start = g.start := by
  intro h
  let first : Production := ⟨[⟨"A", .square⟩], [⟨"[a]", .square⟩], by simp⟩
  let second : Production := ⟨[⟨"B", .square⟩], [⟨"[b]", .square⟩], by simp⟩
  have hmade : IsMade (empty {}) :=
    ⟨⟨{}, .given .null, .null, rfl⟩, ⟨.square, rfl⟩, by simp [empty]⟩
  have hreach : Reachable ((empty {}).add first) :=
    (ReachableFrom.initial hmade).step (.push _ (.production first))
  exact Option.some_ne_none _ (h _ (.production second) second hreach rfl)

end PhraseStructure.Grammar
