import PhraseStructure.Proofs.Grammar.Iteration
import PhraseStructure.Proofs.Grammar.RoundTrip
import PhraseStructure.Proofs.Tree.Counting

/-!
# The classes of the grammar of a tree

The grammar that is read off a tree groups the productions of its nodes by their heads, but gives
exactly these (`Grammar.exists_make_productions`), so that its classes are decided by what is
directly under each node. A leaf under a node stands for a terminal, and a node for a symbol that
may look like one. Where none does, the shapes of the productions are those of the nodes: in a tree
of a grammar in Chomsky normal form there are two nodes or a leaf under each node, and in one of a
linear grammar a leaf and at most one node. From this the nodes, the words and the height are
counted (`toGrammar_classes`).
-/

namespace PhraseStructure

namespace Grammar

variable {g : Grammar} {L : List (List Symbol × List Symbol)} {e : List Symbol × List Symbol}
  {conventions : Conventions} {b : Brackets} {ps : List Production}

/-- Daughters that are found under a head stand there under an equal one. -/
theorem exists_of_mem_lookup {buckets : List Bucket} {head d : List Symbol}
    (h : d ∈ lookup head buckets) : ∃ key, (key, d) ∈ pairsIn buckets ∧ (key == head) = true := by
  induction buckets with
  | nil => simp [lookup] at h
  | cons bucket rest ih =>
    obtain ⟨key, ds⟩ := bucket
    rw [lookup] at h
    rw [pairsIn_cons]
    split at h
    · next hkey => exact ⟨key, List.mem_append_left _ (List.mem_map_of_mem h), hkey⟩
    · obtain ⟨key', hmem, hkey'⟩ := ih h
      exact ⟨key', List.mem_append_right _ hmem, hkey'⟩

/-- Every production that was added is stored, under a head that equals its own. -/
theorem Represents.exists_mem_pairs_of_mem (h : Represents g L) (he : e ∈ L) :
    ∃ key, (key, e.2) ∈ g.pairs ∧ (key == e.1) = true := by
  have hdaughters : e.2 ∈ g.daughtersOf e.1 := by
    rw [h.daughtersOf_eq]
    exact List.mem_map_of_mem (List.mem_filter.mpr ⟨he, BEq.rfl⟩)
  exact exists_of_mem_lookup hdaughters

/-- Productions that are collected are all added. -/
theorem collect_productions (conventions : Conventions) (ps : List Production) :
    collect conventions (.given (.list (ps.map .production))) =
      ⟨(empty conventions).addAll ps, ps.map addedEntry, .ok ()⟩ := by
  refine collect_list ?_
  rw [List.map_map]
  rfl

/-- A grammar is made of any productions under one pair of brackets, and gives exactly these. -/
theorem exists_make_productions (hbrackets : conventions.brackets = .text b.text)
    (hps : ∀ p ∈ ps, AreUnder b p.head ∧ AreUnder b p.daughters) :
    ∃ g qs, (make conventions (.given (.list (ps.map .production))) .null).result = .ok g ∧
      g.productions = .ok qs ∧ ∀ p, p ∈ qs ↔ p ∈ ps := by
  have hL := (Represents.empty conventions).addAll ps
  obtain ⟨qs, hsides, hmem, -, -⟩ := exists_regrouped conventions fun p hp => (hps p hp).1
  have hadditions : [] ∉ ((empty conventions).addAll ps).additions := by
    rw [hL.additions_eq]
    simp [Production.sides, Production.head_ne_nil]
  obtain ⟨start, hstart⟩ := exists_defaultStart hadditions
  refine ⟨{ (empty conventions).addAll ps with start := start }, qs, ?_, ?_, ?_⟩
  · rw [result_make, collect_productions]
    exact bind_eq_ok_iff.mpr ⟨(), rfl, bind_eq_ok_iff.mpr ⟨start, hstart, rfl⟩⟩
  · refine productions_of_sides ?_ hsides fun q hq => hps q (hmem q hq)
    exact (congrArg Conventions.brackets (conventions_addAll ps)).trans hbrackets
  · intro p
    refine ⟨hmem p, fun hp => ?_⟩
    obtain ⟨key, hkey, hsame⟩ := hL.exists_mem_pairs_of_mem (List.mem_map_of_mem hp)
    rw [← hsides] at hkey
    obtain ⟨q, hq, hpair⟩ := List.mem_map.mp hkey
    obtain ⟨rfl, hdaughters⟩ := Prod.mk.inj hpair
    have hhead : q.head = p.head := (hps q (hmem q hq)).1.eq_of_beq (hps p hp).1 hsame
    obtain rfl : q = p := Production.sides_injective (Prod.ext hhead hdaughters)
    exact hq

end Grammar

namespace Tree

variable {b : Brackets} {t : Tree String} {agenda : List (Tree String)}

section Shapes

/-- The production of a node is under the brackets that are given. -/
theorem areUnder_license (b : Brackets) (t : Tree String) :
    AreUnder b (license b t).head ∧ AreUnder b (license b t).daughters := by
  constructor
  · intro s hs
    rw [List.mem_singleton.mp hs]
  · intro s hs
    obtain ⟨child, -, rfl⟩ := List.mem_map.mp hs
    cases child <;> rfl

/-- The production of a node is context-free if the label is no terminal. -/
theorem isContextFree_license :
    (license b t).isContextFree = true ↔ (⟨t.caption, b⟩ : Symbol).isTerminal = false := by
  simp [Production.isContextFree, license, Symbol.isNonterminal]

/-- Where no label looks like a terminal, the terminals under a node are the leaves. -/
theorem isTerminal_symbolUnder
    (h : t.isNode = true → (⟨t.caption, b⟩ : Symbol).isTerminal = false) :
    (symbolUnder b t).isTerminal = !t.isNode := by
  cases t with
  | leaf word => exact isTerminal_terminal b word
  | node label children => exact h rfl

/-- Under a node whose production is in Chomsky normal form there is a leaf, or there are two nodes.
-/
theorem children_of_isChomskyNormal
    (hsymbols : ∀ s ∈ t.children, (symbolUnder b s).isTerminal = !s.isNode)
    (h : (license b t).isChomskyNormal = true) :
    t.children.map isNode = [false] ∨ t.children.map isNode = [true, true] := by
  rw [Production.isChomskyNormal, Bool.and_eq_true] at h
  have hdaughters := h.2
  rw [license] at hdaughters
  rcases hchildren : t.children with - | ⟨s, - | ⟨s', - | ⟨s'', others⟩⟩⟩
  · simp [hchildren] at hdaughters
  · left
    rw [hchildren, List.forall_mem_singleton] at hsymbols
    simpa [hchildren, hsymbols] using hdaughters
  · right
    rw [hchildren, List.forall_mem_cons, List.forall_mem_singleton] at hsymbols
    simpa [hchildren, Symbol.isNonterminal, hsymbols] using hdaughters
  · simp [hchildren] at hdaughters

/-- Under a node whose production is left-regular or right-regular there is a leaf, and beside it at
most a node. -/
theorem children_of_isRegular
    (hsymbols : ∀ s ∈ t.children, (symbolUnder b s).isTerminal = !s.isNode)
    (h : ((license b t).isLeftRegular || (license b t).isRightRegular) = true) :
    t.children.map isNode = [false] ∨ t.children.map isNode = [true, false] ∨
      t.children.map isNode = [false, true] := by
  rw [Bool.or_eq_true, Production.isLeftRegular, Production.isRightRegular, Bool.and_eq_true,
    Bool.and_eq_true] at h
  have hdaughters := h.imp And.right And.right
  rw [license] at hdaughters
  rcases hchildren : t.children with - | ⟨s, - | ⟨s', - | ⟨s'', others⟩⟩⟩
  · simp [hchildren] at hdaughters
  · left
    rw [hchildren, List.forall_mem_singleton] at hsymbols
    have hepsilon : (symbolUnder b s).isEpsilon = true → s.isNode = false := by
      intro hs
      have hterminal := Symbol.isTerminal_of_isEpsilon hs
      rwa [hsymbols, Bool.not_eq_true'] at hterminal
    rw [hchildren] at hdaughters
    simp only [List.map_cons, List.map_nil, hsymbols, Bool.or_eq_true,
      Bool.not_eq_true'] at hdaughters
    rw [List.map_singleton, List.cons_eq_cons]
    tauto
  · right
    rw [hchildren, List.forall_mem_cons, List.forall_mem_singleton] at hsymbols
    simpa [hchildren, Symbol.isNonterminal, hsymbols] using hdaughters
  · simp [hchildren] at hdaughters

end Shapes

/-- A grammar is read off every tree, every class of it is decided, and all its productions satisfy
a condition exactly if those of all nodes do. -/
theorem exists_toGrammar (b : Brackets) (delimiter : Datum) (t : Tree String) :
    ∃ g, ((t.map .text).toGrammar (.text b.text) delimiter).result = .ok g ∧
      (∀ c : Grammar.Class, ∃ answer, g.belongs c = .ok answer) ∧
      ∀ holds, allReadings holds g.readings = .ok true ↔
        ∀ s ∈ nodesFrom [t], holds (license b s) = true := by
  have hunder : ∀ p ∈ (nodesFrom [t]).map (license b),
      AreUnder b p.head ∧ AreUnder b p.daughters := by
    rw [List.forall_mem_map]
    exact fun s _ => areUnder_license b s
  let conventions : Conventions := { delimiter := delimiter, brackets := .text b.text }
  have hbrackets : conventions.brackets = .text b.text := rfl
  obtain ⟨g, qs, hmade, hproductions, hmem⟩ := Grammar.exists_make_productions hbrackets hunder
  refine ⟨g, ?_, fun c => ⟨_, Grammar.belongs_eq hproductions c⟩, fun holds => ?_⟩
  · rw [toGrammar, productions_map_text, subtrees_eq_nodesFrom]
    exact hmade
  · rw [mapM_id_eq_ok_iff.mp hproductions, allReadings_map_ok, Except.ok.injEq, List.all_eq_true]
    simp only [hmem, List.forall_mem_map]

/-- If all productions of a tree are context-free, the terminals under its nodes are the leaves. -/
theorem isTerminal_of_isContextFree
    (h : ∀ s ∈ nodesFrom agenda, (license b s).isContextFree = true) (ht : t ∈ nodesFrom agenda) :
    ∀ s ∈ t.children, (symbolUnder b s).isTerminal = !s.isNode := by
  intro s hs
  refine isTerminal_symbolUnder fun hnode => ?_
  exact isContextFree_license.mp (h s (mem_nodesFrom_of_mem_children ht hs hnode))

/-- A grammar is read off every tree, and every class of it is decided. It is context-free exactly
if no label of the tree is a terminal. If it is in Chomsky normal form, the nodes are one less than
twice the leaves. If it is linear, there are as many leaves as nodes, and the tree is as high. -/
theorem toGrammar_classes (b : Brackets) (delimiter : Datum) (ht : t.isNode = true) :
    ∃ g, ((t.map .text).toGrammar (.text b.text) delimiter).result = .ok g ∧
      (∀ c : Grammar.Class, ∃ answer, g.belongs c = .ok answer) ∧
      (g.isContextFree = .ok true ↔
        ∀ s ∈ t.subtrees fun _ => true, (⟨s.caption, b⟩ : Symbol).isTerminal = false) ∧
      (g.isChomskyNormal = .ok true →
        (t.subtrees fun _ => true).length + 1 = 2 * t.leaves.length) ∧
      (g.isLinear = .ok true → t.leaves.length = (t.subtrees fun _ => true).length ∧
        (t.subtrees fun _ => true).length = t.height) := by
  obtain ⟨g, hmade, hdecided, hall⟩ := exists_toGrammar b delimiter t
  rw [subtrees_eq_nodesFrom]
  refine ⟨g, hmade, hdecided, ?_, fun hnormal => ?_, fun hlinear => ?_⟩
  · rw [Grammar.isContextFree, hall]
    simp only [isContextFree_license]
  · rw [Grammar.isChomskyNormal, hall] at hnormal
    have hfree : ∀ s ∈ nodesFrom [t], (license b s).isContextFree = true :=
      fun s hs => (Bool.and_eq_true_iff.mp (hnormal s hs)).1
    exact (two_mul_length_leaves ht fun s hs =>
      children_of_isChomskyNormal (isTerminal_of_isContextFree hfree hs) (hnormal s hs)).symm
  · rw [Grammar.isLinear, hall] at hlinear
    have hfree : ∀ s ∈ nodesFrom [t], (license b s).isContextFree = true := by
      intro s hs
      rcases Bool.or_eq_true_iff.mp (hlinear s hs) with hleft | hright
      · exact (Bool.and_eq_true_iff.mp hleft).1
      · exact (Bool.and_eq_true_iff.mp hright).1
    exact length_leaves_and_height ht fun s hs =>
      children_of_isRegular (isTerminal_of_isContextFree hfree hs) (hlinear s hs)

/-- A tree of a grammar in Chomsky normal form in which a production occurs twice, and a tree of a
linear grammar with an empty leaf. -/
theorem toGrammar_classes_shapes :
    (∃ g, (((node "S" [node "A" [leaf "a"], node "A" [leaf "a"]]).map .text).toGrammar
        (.text Brackets.square.text) (.text "-->")).result = .ok g ∧
      g.isChomskyNormal = .ok true ∧
      ((node "S" [node "A" [leaf "a"], node "A" [leaf "a"]]).subtrees fun _ => true).length + 1 =
        2 * (node "S" [node "A" [leaf "a"], node "A" [leaf "a"]]).leaves.length) ∧
    ∃ g, (((node "S" [leaf "a", node "S" [leaf ""]]).map .text).toGrammar
        (.text Brackets.square.text) (.text "-->")).result = .ok g ∧
      g.isLinear = .ok true ∧ (node "S" [leaf "a", node "S" [leaf ""]]).height = 2 := by
  constructor
  · have hclass : (((node "S" [node "A" [leaf "a"], node "A" [leaf "a"]]).map .text).toGrammar
        (.text Brackets.square.text) (.text "-->")).result >>= Grammar.isChomskyNormal =
          .ok true := by
      cbv
    obtain ⟨g, hmade, -, -, hcount, -⟩ := toGrammar_classes
      (t := node "S" [node "A" [leaf "a"], node "A" [leaf "a"]]) .square (.text "-->") rfl
    rw [hmade] at hclass
    exact ⟨g, hmade, hclass, hcount hclass⟩
  · have hclass : (((node "S" [leaf "a", node "S" [leaf ""]]).map .text).toGrammar
        (.text Brackets.square.text) (.text "-->")).result >>= Grammar.isLinear = .ok true := by
      cbv
    obtain ⟨g, hmade, -, -, -, hcount⟩ := toGrammar_classes
      (t := node "S" [leaf "a", node "S" [leaf ""]]) .square (.text "-->") rfl
    rw [hmade] at hclass
    refine ⟨g, hmade, hclass, (hcount hclass).2.symm.trans ?_⟩
    simp [subtrees_eq_nodesFrom]

end Tree

end PhraseStructure
