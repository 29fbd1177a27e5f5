import PhraseStructure.Proofs.Grammar.Indexing
import PhraseStructure.Proofs.Grammar.Iteration

/-!
# The hierarchy of classes

A class is included in another one because the shapes of its productions are. The left-regular and
the right-regular productions differ only where there are two daughters
(`Production.isLeftRegular_eq_isRightRegular`), and no production of two daughters is both
(`Production.isLeftRegular_and_isRightRegular_iff`). A grammar is regular if all its productions are
left-regular or all are right-regular, and linear if each of them is one or the other, so that there
are more linear grammars than regular ones.
-/

namespace PhraseStructure

namespace Production

variable {p : Production}

section Inclusions

/-- A left regular production is context-free. -/
theorem isContextFree_of_isLeftRegular (h : p.isLeftRegular = true) : p.isContextFree = true := by
  rw [isLeftRegular, Bool.and_eq_true] at h
  exact h.1

/-- A right regular production is context-free. -/
theorem isContextFree_of_isRightRegular (h : p.isRightRegular = true) :
    p.isContextFree = true := by
  rw [isRightRegular, Bool.and_eq_true] at h
  exact h.1

/-- A production in Chomsky normal form is context-free. -/
theorem isContextFree_of_isChomskyNormal (h : p.isChomskyNormal = true) :
    p.isContextFree = true := by
  rw [isChomskyNormal, Bool.and_eq_true] at h
  exact h.1

/-- Of the right-regular shapes, Greibach normal form leaves out the terminals other than the empty
string. -/
theorem isRightRegular_of_isGreibachNormal (h : p.isGreibachNormal = true) :
    p.isRightRegular = true := by
  rw [isGreibachNormal, Bool.and_eq_true] at h
  rw [isRightRegular, h.1, Bool.true_and]
  split at h
  · exact Bool.or_eq_true_iff.mpr (.inr h.2)
  · exact h.2
  · cases h.2

/-- What is replaced by itself starts with itself. -/
theorem isLeftRecursive_of_isCyclic (h : p.isCyclic = true) : p.isLeftRecursive = true := by
  have hlength : p.head.length = p.daughters.length := by
    simpa using congrArg List.length (Symbol.list_beq_iff.mp h)
  rw [isLeftRecursive, hlength, List.take_length]
  exact BEq.symm h

end Inclusions

section Sides

/-- A context-free production with one daughter, a terminal. -/
def IsPreterminal (p : Production) : Prop :=
  ∃ a w, p.head = [a] ∧ a.isNonterminal = true ∧ p.daughters = [w] ∧ w.isTerminal = true

/-- A production is context-free if its head is a single non-terminal. -/
theorem isContextFree_iff :
    p.isContextFree = true ↔ ∃ a, p.head = [a] ∧ a.isNonterminal = true := by
  unfold isContextFree
  split
  · next a ha => simp [ha]
  · next hhead =>
    refine iff_of_false Bool.false_ne_true ?_
    rintro ⟨a, ha, -⟩
    exact hhead a ha

/-- The two kinds of regular productions agree but for two daughters: the empty string is a
terminal. -/
theorem isLeftRegular_eq_isRightRegular (h : p.daughters.length ≠ 2) :
    p.isLeftRegular = p.isRightRegular := by
  unfold isLeftRegular isRightRegular
  rcases hd : p.daughters with _ | ⟨a, _ | ⟨c, _ | ⟨d, rest⟩⟩⟩
  · rfl
  · have hterminal : (a.isTerminal || a.isEpsilon) = a.isTerminal := by
      rw [Bool.or_eq_left_iff_imp]
      exact Symbol.isTerminal_of_isEpsilon
    simp only [hterminal]
  · simp [hd] at h
  · rfl

/-- A production that is regular on both sides has one daughter, as two would start with a terminal
and with a non-terminal. -/
theorem isLeftRegular_and_isRightRegular_iff :
    p.isLeftRegular = true ∧ p.isRightRegular = true ↔ p.IsPreterminal := by
  have hpreterminal : p.IsPreterminal ↔
      p.isContextFree = true ∧ ∃ w, p.daughters = [w] ∧ w.isTerminal = true := by
    rw [isContextFree_iff]
    constructor
    · rintro ⟨a, w, ha, hnonterminal, hw, hterminal⟩
      exact ⟨⟨a, ha, hnonterminal⟩, w, hw, hterminal⟩
    · rintro ⟨⟨a, ha, hnonterminal⟩, w, hw, hterminal⟩
      exact ⟨a, w, ha, hnonterminal, hw, hterminal⟩
  rw [hpreterminal]
  by_cases hlength : p.daughters.length = 2
  · obtain ⟨a, c, hd⟩ := List.length_eq_two.mp hlength
    refine iff_of_false ?_ ?_
    · rintro ⟨hleft, hright⟩
      simp only [isLeftRegular, isRightRegular, hd, Bool.and_eq_true, Symbol.isNonterminal,
        Bool.not_eq_true'] at hleft hright
      rw [hleft.2.1] at hright
      exact Bool.false_ne_true hright.2.1
    · rintro ⟨-, w, hw, -⟩
      simp [hw] at hlength
  · rw [← isLeftRegular_eq_isRightRegular hlength, and_self_iff, isLeftRegular, Bool.and_eq_true]
    refine and_congr_right fun _ => ?_
    split
    · next a ha => simp [ha]
    · next a c hd => simp [hd] at hlength
    · next hone _ =>
      refine iff_of_false Bool.false_ne_true ?_
      rintro ⟨w, hw, -⟩
      exact hone w hw

/-- A single terminal under a non-terminal is in Chomsky normal form. -/
theorem IsPreterminal.isChomskyNormal (h : p.IsPreterminal) : p.isChomskyNormal = true := by
  obtain ⟨a, w, ha, hnonterminal, hw, hterminal⟩ := h
  simp [Production.isChomskyNormal, isContextFree, ha, hnonterminal, hw, hterminal]

end Sides

end Production

namespace Grammar

open Production

variable {g : Grammar} {ps : List Production} {b : Brackets}

namespace Class

/-- If the productions of a shape are of another shape, so are lists of them. -/
theorem all_of_all {shape shape' : Production → Bool}
    (hshape : ∀ p, shape p = true → shape' p = true) (h : ps.all shape = true) :
    ps.all shape' = true := by
  rw [List.all_eq_true] at h ⊢
  exact fun p hp => hshape p (h p hp)

/-- A list of regular productions of one side is one of regular productions of either side. -/
theorem holds_linear_of_regular (h : Class.holds ps .regular = true) :
    Class.holds ps .linear = true := by
  rw [holds, Bool.or_eq_true] at h
  rcases h with hleft | hright
  · exact all_of_all (fun p hp => by rw [hp, Bool.true_or]) hleft
  · exact all_of_all (fun p hp => by rw [hp, Bool.or_true]) hright

/-- A linear grammar is context-free. -/
theorem holds_contextFree_of_linear (h : Class.holds ps .linear = true) :
    Class.holds ps .contextFree = true := by
  refine all_of_all (fun p hp => ?_) h
  rcases Bool.or_eq_true_iff.mp hp with hleft | hright
  · exact isContextFree_of_isLeftRegular hleft
  · exact isContextFree_of_isRightRegular hright

/-- A grammar is regular on both sides if every production puts a single terminal under a
non-terminal. -/
theorem holds_leftRegular_and_rightRegular_iff :
    Class.holds ps .leftRegular = true ∧ Class.holds ps .rightRegular = true ↔
      ∀ p ∈ ps, p.IsPreterminal := by
  simp only [holds, List.all_eq_true, ← forall₂_and, isLeftRegular_and_isRightRegular_iff]

/-- A cyclic grammar is left recursive. -/
theorem holds_leftRecursive_of_cyclic (h : Class.holds ps .cyclic = true) :
    Class.holds ps .leftRecursive = true := by
  obtain ⟨p, hp, hcyclic⟩ := List.any_eq_true.mp h
  exact List.any_eq_true.mpr ⟨p, hp, isLeftRecursive_of_isCyclic hcyclic⟩

/-- Without two daughters somewhere, the productions are regular on both sides or on neither. -/
theorem exists_of_holds_strictlyRegular (h : Class.holds ps .strictlyRegular = true) :
    ∃ p ∈ ps, p.daughters.length = 2 := by
  by_contra hnone
  have hsame : ps.all Production.isLeftRegular = ps.all Production.isRightRegular := by
    rw [Bool.eq_iff_iff, List.all_eq_true, List.all_eq_true]
    refine forall₂_congr fun p hp => ?_
    rw [isLeftRegular_eq_isRightRegular fun hlength => hnone ⟨p, hp, hlength⟩]
  rw [holds, hsame, bne_self_eq_false] at h
  exact Bool.false_ne_true h

end Class

/-- With valid brackets and a symbol in every head, a grammar can be iterated over. -/
theorem exists_productions_of_heads (hb : g.conventions.brackets = .text b.text)
    (hheads : ∀ bucket ∈ g.buckets, bucket.1 ≠ []) : ∃ ps, g.productions = .ok ps := by
  refine exists_productions_iff_forall.mpr fun pair hpair => ?_
  obtain ⟨bucket, hbucket, hmem⟩ := List.mem_flatMap.mp hpair
  obtain ⟨d, -, rfl⟩ := List.mem_map.mp hmem
  exact ⟨⟨bucket.1.map (rebracketed · b), d.map (rebracketed · b), by simpa using hheads _ hbucket⟩,
    rewrap_eq_ok_iff.mpr ⟨b, hb, rfl, rfl⟩⟩

/-- The classes of a grammar with valid brackets and a symbol in every head, which may be empty, are
all decided, and they are included in each other: Greibach normal form in right-regular, regular in
linear, linear and Chomsky normal form in context-free, and cyclic in left-recursive. Left-regular
and right-regular are together the grammars in which every production replaces a single non-terminal
by one terminal, and these are in Chomsky normal form. A strictly regular grammar has a production
with two daughters. -/
theorem class_hierarchy (hb : g.conventions.brackets = .text b.text)
    (hheads : ∀ bucket ∈ g.buckets, bucket.1 ≠ []) :
    ∃ ps, g.productions = .ok ps ∧ (∀ c, ∃ v, g.belongs c = .ok v) ∧
      (g.belongs .greibachNormal = .ok true → g.belongs .rightRegular = .ok true) ∧
      (g.belongs .regular = .ok true → g.belongs .linear = .ok true) ∧
      (g.belongs .linear = .ok true → g.belongs .contextFree = .ok true) ∧
      (g.belongs .chomskyNormal = .ok true → g.belongs .contextFree = .ok true) ∧
      (g.belongs .leftRegular = .ok true ∧ g.belongs .rightRegular = .ok true ↔
        ∀ p ∈ ps, p.IsPreterminal) ∧
      (g.belongs .leftRegular = .ok true → g.belongs .rightRegular = .ok true →
        g.belongs .chomskyNormal = .ok true) ∧
      (g.belongs .cyclic = .ok true → g.belongs .leftRecursive = .ok true) ∧
      (g.belongs .strictlyRegular = .ok true →
        g.size ≠ 0 ∧ ∃ p ∈ ps, p.daughters.length = 2) := by
  obtain ⟨ps, hps⟩ := exists_productions_of_heads hb hheads
  refine ⟨ps, hps, fun c => ⟨_, belongs_eq hps c⟩, ?_⟩
  simp only [belongs_eq hps, Except.ok.injEq]
  refine ⟨Class.all_of_all fun _ => isRightRegular_of_isGreibachNormal,
    Class.holds_linear_of_regular, Class.holds_contextFree_of_linear,
    Class.all_of_all fun _ => isContextFree_of_isChomskyNormal,
    Class.holds_leftRegular_and_rightRegular_iff, fun hleft hright => ?_,
    Class.holds_leftRecursive_of_cyclic, fun hstrict => ?_⟩
  · have hpreterminal := Class.holds_leftRegular_and_rightRegular_iff.mp ⟨hleft, hright⟩
    exact List.all_eq_true.mpr fun p hp => (hpreterminal p hp).isChomskyNormal
  · obtain ⟨p, hp, hlength⟩ := Class.exists_of_holds_strictlyRegular hstrict
    have hpos : 0 < g.size := length_productions hps ▸ List.length_pos_of_mem hp
    exact ⟨hpos.ne', p, hp, hlength⟩

/-- A grammar in Greibach normal form under two equal brackets, with a production into a terminal
before a non-terminal and one into the empty string. -/
theorem class_hierarchy_greibach :
    ∃ (g : Grammar) (ps : List Production), g.conventions.brackets = .text "||" ∧
      g.productions = .ok ps ∧ ps.length = 2 ∧
      g.belongs .greibachNormal = .ok true ∧ g.belongs .rightRegular = .ok true ∧
      g.belongs .leftRegular = .ok false ∧ g.belongs .regular = .ok true ∧
      g.belongs .linear = .ok true ∧ g.belongs .contextFree = .ok true ∧
      g.belongs .strictlyRegular = .ok true ∧ ∃ p ∈ ps, p.daughters.length = 2 := by
  let bars : Brackets := ⟨'|', '|', rfl, rfl⟩
  let s : Symbol := ⟨"S", bars⟩
  let first : Production := ⟨[s], [⟨"|a|", bars⟩, s], by simp⟩
  let second : Production := ⟨[s], [⟨"||", bars⟩], by simp⟩
  let g : Grammar := (empty { brackets := .text "||" }).addAll [first, second]
  have hproductions : g.productions = .ok [first, second] := rfl
  have hbrackets : g.conventions.brackets = .text bars.text := rfl
  have hheads : ∀ bucket ∈ g.buckets, bucket.1 ≠ [] := by
    simp [g, empty, add, addTo, first, second]
  obtain ⟨ps, hps, -, hright, hlinear, hcontextFree, -, -, -, -, hstrict⟩ :=
    class_hierarchy hbrackets hheads
  cases hproductions.symm.trans hps
  have hgreibach : g.belongs .greibachNormal = .ok true := by cbv
  have hleft : g.belongs .leftRegular = .ok false := by cbv
  have hregular : g.belongs .regular = .ok true := by cbv
  have hstrictly : g.belongs .strictlyRegular = .ok true := by cbv
  exact ⟨g, _, rfl, hproductions, rfl, hgreibach, hright hgreibach, hleft, hregular,
    hlinear hregular, hcontextFree (hlinear hregular), hstrictly, (hstrict hstrictly).2⟩

end Grammar

end PhraseStructure
