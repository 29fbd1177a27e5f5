import PhraseStructure.Proofs.Grammar.Texts
import PhraseStructure.Proofs.Tree.Classification

/-!
# Trees and their productions

The productions of a tree, each before those of the nodes below, tell what stands under each node
where no label looks like a terminal: a terminal under a node is a leaf, and any other symbol is the
label of the next node whose production is still to come. So two trees with the same productions are
the same (`eq_of_licensesFrom_eq`). The grammar of a tree holds its productions and starts with its
label (`productions_determine`).
-/

namespace PhraseStructure

open Brackets

namespace Tree

variable {b : Brackets} {s t : Tree String} {agenda agenda' rest : List (Tree String)}
  {label word : String} {children : List (Tree String)}

/-- No label of a node on an agenda or below looks like a terminal. -/
def LabelsOpen (b : Brackets) (agenda : List (Tree String)) : Prop :=
  ∀ t ∈ nodesFrom agenda, (⟨t.caption, b⟩ : Symbol).isTerminal = false

section Agenda

/-- A leaf has no production. -/
theorem licensesFrom_leaf : licensesFrom b (leaf word :: rest) = licensesFrom b rest := by
  simp [licensesFrom, preorderFrom, isNode]

/-- The production of a node comes before those of the nodes under it. -/
theorem licensesFrom_node : licensesFrom b (node label children :: rest) =
    license b (node label children) :: licensesFrom b (children ++ rest) := by
  rw [licensesFrom, preorderFrom, List.filter_cons_of_pos rfl]
  rfl

/-- There is one production for each node. -/
theorem licensesFrom_eq_map (b : Brackets) (agenda : List (Tree String)) :
    licensesFrom b agenda = (nodesFrom agenda).map (license b) := rfl

/-- Different words are different terminals. -/
theorem terminal_injective (b : Brackets) : Function.Injective (terminal b) := by
  intro v w h
  have htext := congrArg (String.toList ∘ Symbol.text) h
  exact String.toList_injective (by simpa [terminal] using htext)

/-- A leaf has no label that could look like a terminal. -/
theorem labelsOpen_leaf (h : LabelsOpen b (leaf word :: rest)) : LabelsOpen b rest := by
  rwa [LabelsOpen, nodesFrom_leaf] at h

/-- The label of a node and those behind it do not look like terminals. -/
theorem labelsOpen_node (h : LabelsOpen b (node label children :: rest)) :
    (⟨label, b⟩ : Symbol).isTerminal = false ∧ LabelsOpen b (children ++ rest) := by
  rwa [LabelsOpen, nodesFrom_node, List.forall_mem_cons] at h

/-- A leaf and a node are different symbols, and so are different leaves. -/
theorem eq_leaf_of_symbolUnder (ht : LabelsOpen b (t :: rest))
    (h : terminal b word = symbolUnder b t) : t = leaf word := by
  cases t with
  | leaf word' => rw [terminal_injective b h]
  | node label children =>
    have hopen := (labelsOpen_node ht).1
    rw [symbolUnder] at h
    rw [← h, isTerminal_terminal] at hopen
    cases hopen

/-- A symbol that does not look like a terminal is the label of a node. -/
theorem exists_node_of_symbolUnder (hlabel : (⟨label, b⟩ : Symbol).isTerminal = false)
    (h : (⟨label, b⟩ : Symbol) = symbolUnder b t) : ∃ children, t = node label children := by
  cases t with
  | leaf word =>
    rw [symbolUnder] at h
    rw [h, isTerminal_terminal] at hlabel
    cases hlabel
  | node label' children =>
    obtain ⟨rfl, -⟩ := Symbol.mk.inj h
    exact ⟨children, rfl⟩

/-- Trees on two agendas are the same if they are the same symbols and their nodes have the same
productions. -/
theorem eq_of_licensesFrom_eq (hopen : LabelsOpen b agenda) (hopen' : LabelsOpen b agenda')
    (hsymbols : agenda.map (symbolUnder b) = agenda'.map (symbolUnder b))
    (hlicenses : licensesFrom b agenda = licensesFrom b agenda') : agenda = agenda' := by
  induction agenda using preorderFrom.induct generalizing agenda' with
  | case1 => simpa using hsymbols.symm
  | case2 word rest ih =>
    cases agenda' with
    | nil => simp at hsymbols
    | cons t rest' =>
      obtain ⟨hfirst, hrest⟩ := List.cons.inj hsymbols
      obtain rfl := eq_leaf_of_symbolUnder hopen' hfirst
      rw [licensesFrom_leaf, licensesFrom_leaf] at hlicenses
      rw [ih (labelsOpen_leaf hopen) (labelsOpen_leaf hopen') hrest hlicenses]
  | case3 label children rest ih =>
    cases agenda' with
    | nil => simp at hsymbols
    | cons t rest' =>
      obtain ⟨hfirst, hrest⟩ := List.cons.inj hsymbols
      obtain ⟨hlabel, hbelow⟩ := labelsOpen_node hopen
      obtain ⟨children', rfl⟩ := exists_node_of_symbolUnder hlabel hfirst
      rw [licensesFrom_node, licensesFrom_node] at hlicenses
      obtain ⟨hlicense, hothers⟩ := List.cons.inj hlicenses
      have hdaughters : children.map (symbolUnder b) = children'.map (symbolUnder b) :=
        congrArg Production.daughters hlicense
      have hsame := ih hbelow (labelsOpen_node hopen').2
        (by rw [List.map_append, List.map_append, hdaughters, hrest]) hothers
      have hlength : children.length = children'.length := by
        simpa using congrArg List.length hdaughters
      obtain ⟨rfl, rfl⟩ := List.append_inj hsame hlength
      rfl

end Agenda

section Determining

/-- The symbols of the production of a node are under the brackets that are given. -/
theorem areUnder_symbols_license (b : Brackets) (t : Tree String) :
    AreUnder b (license b t).symbols :=
  areUnder_append.mpr (areUnder_license b t)

/-- Productions of nodes that are the same as texts are the same. -/
theorem licensesFrom_eq_of_beq (h : (licensesFrom b agenda == licensesFrom b agenda') = true) :
    licensesFrom b agenda = licensesFrom b agenda' := by
  have htexts := Production.list_beq_iff.mp h
  rw [licensesFrom_eq_map, licensesFrom_eq_map, ← List.forall₂_eq_eq_eq] at htexts ⊢
  simp only [List.forall₂_map_left_iff, List.forall₂_map_right_iff] at htexts ⊢
  exact htexts.imp fun u v => Production.eq_of_sideTexts (areUnder_symbols_license b u)
    (areUnder_symbols_license b v)

/-- The first production of a node replaces its label. -/
theorem exists_licensesFrom_eq (b : Brackets) (ht : t.isNode = true) :
    ∃ ps, licensesFrom b [t] = license b t :: ps := by
  cases t with
  | leaf word => cases ht
  | node label children => exact ⟨_, licensesFrom_node⟩

/-- Nodes have the same productions only if they are the same. -/
theorem beq_licensesFrom_iff (hs : s.isNode = true) (ht : t.isNode = true)
    (hopen : LabelsOpen b [s]) (hopen' : LabelsOpen b [t]) :
    (licensesFrom b [s] == licensesFrom b [t]) = true ↔ s = t := by
  constructor
  · intro h
    have hlicenses := licensesFrom_eq_of_beq h
    obtain ⟨ps, hps⟩ := exists_licensesFrom_eq b hs
    obtain ⟨qs, hqs⟩ := exists_licensesFrom_eq b ht
    have hroot : license b s = license b t := by
      rw [hps, hqs] at hlicenses
      exact (List.cons.inj hlicenses).1
    have hsymbols : [s].map (symbolUnder b) = [t].map (symbolUnder b) := by
      cases s with
      | leaf word => cases hs
      | node label children =>
        cases t with
        | leaf word => cases ht
        | node label' children' => exact congrArg Production.head hroot
    exact List.singleton_inj.mp (eq_of_licensesFrom_eq hopen hopen' hsymbols hlicenses)
  · rintro rfl
    exact Production.list_beq_iff.mpr rfl

end Determining

section Collecting

/-- A grammar is made of the productions of a node, and holds each of them as often as it occurs. -/
theorem exists_toGrammar_productions (b : Brackets) (delimiter : Datum) (ht : t.isNode = true) :
    ∃ g, ((t.map .text).toGrammar (.text b.text) delimiter).result = .ok g ∧
      Grammar.Represents g ((licensesFrom b [t]).map Production.sides) ∧
      g.size = (licensesFrom b [t]).length ∧ g.start = some ⟨t.caption, b⟩ := by
  let conventions : Conventions := { delimiter := delimiter, brackets := .text b.text }
  let collected := (Grammar.empty conventions).addAll (licensesFrom b [t])
  have hcollect := Grammar.collect_productions conventions (licensesFrom b [t])
  have hrep : Grammar.Represents collected ((licensesFrom b [t]).map Production.sides) :=
    (Grammar.Represents.empty conventions).addAll _
  have hsize : collected.size = (licensesFrom b [t]).length := by
    rw [Grammar.size_addAll]
    exact Nat.zero_add _
  have hstart : collected.defaultStart = .ok (some ⟨t.caption, b⟩) := by
    obtain ⟨ps, hps⟩ := exists_licensesFrom_eq b ht
    rw [Grammar.defaultStart, hrep.additions_eq, hps]
    rfl
  refine ⟨{ collected with start := some ⟨t.caption, b⟩ }, ?_, hrep.congr rfl rfl, hsize, rfl⟩
  have hmade : (Grammar.make conventions (.given (.list ((licensesFrom b [t]).map .production)))
      .null).result = .ok { collected with start := some ⟨t.caption, b⟩ } := by
    rw [Grammar.result_make, hcollect]
    exact bind_eq_ok_iff.mpr ⟨(), rfl, bind_eq_ok_iff.mpr ⟨_, hstart, rfl⟩⟩
  rw [toGrammar, productions_map_text, subtrees_eq_nodesFrom]
  exact hmade

end Collecting

/-- The productions of nodes are the same only if the nodes are, where no label looks like a
terminal. The grammar of a node holds each of its productions, as many as there are nodes, and
starts with its label, whatever the labels are. -/
theorem productions_determine (b : Brackets) (delimiter : Datum) (hs : s.isNode = true)
    (ht : t.isNode = true) :
    ∃ ps qs, (s.map .text).productions (.text b.text) = .ok ps ∧
      (t.map .text).productions (.text b.text) = .ok qs ∧
      ((∀ u ∈ s.subtrees fun _ => true, (⟨u.caption, b⟩ : Symbol).isTerminal = false) →
        (∀ u ∈ t.subtrees fun _ => true, (⟨u.caption, b⟩ : Symbol).isTerminal = false) →
        ((ps == qs) = true ↔ s = t)) ∧
      ∃ g, ((s.map .text).toGrammar (.text b.text) delimiter).result = .ok g ∧
        (∀ p ∈ ps, g.contains (.production p) = .ok true) ∧
        g.size = (s.subtrees fun _ => true).length ∧ g.start = some ⟨s.caption, b⟩ := by
  obtain ⟨g, hmade, hrep, hsize, hstart⟩ := exists_toGrammar_productions b delimiter hs
  simp only [productions_map_text, subtrees_eq_nodesFrom]
  refine ⟨_, _, rfl, rfl, fun hopen hopen' => beq_licensesFrom_iff hs ht hopen hopen', g, hmade,
    fun p hp => ?_, by rw [hsize, licensesFrom_eq_map, List.length_map], hstart⟩
  have hmem : g.mem p = true := by
    rw [hrep.mem_iff, hrep.mem_pairTexts_iff, List.map_map]
    exact List.mem_map_of_mem hp
  exact bind_eq_ok_iff.mpr ⟨p, rfl, congrArg Except.ok hmem⟩

/-- Two trees that differ in which of two nodes has a leaf under it, so that they have the same
productions in another order. The root has no label, and a leaf is the label of a node. -/
theorem productions_determine_exchanged :
    ∃ ps qs, ((node "" [node "A" [], leaf "A", node "A" [leaf ""]]).map .text).productions
        (.text Brackets.square.text) = .ok ps ∧
      ((node "" [node "A" [leaf ""], leaf "A", node "A" []]).map .text).productions
        (.text Brackets.square.text) = .ok qs ∧
      (ps == qs) = false ∧
      ∃ g, (((node "" [node "A" [], leaf "A", node "A" [leaf ""]]).map .text).toGrammar
          (.text Brackets.square.text) (.text "-->")).result = .ok g ∧
        (∀ p ∈ ps, g.contains (.production p) = .ok true) ∧ g.size = 3 ∧
        g.start = some ⟨"", .square⟩ := by
  have hopen : ∀ u ∈ (node "" [node "A" [], leaf "A", node "A" [leaf ""]]).subtrees fun _ => true,
      (⟨u.caption, .square⟩ : Symbol).isTerminal = false := by
    simp [subtrees, subtreesFrom, caption, Symbol.isTerminal]
  have hopen' : ∀ u ∈ (node "" [node "A" [leaf ""], leaf "A", node "A" []]).subtrees fun _ => true,
      (⟨u.caption, .square⟩ : Symbol).isTerminal = false := by
    simp [subtrees, subtreesFrom, caption, Symbol.isTerminal]
  obtain ⟨ps, qs, hps, hqs, hiff, g, hg, hcontains, hsize, hstart⟩ := productions_determine
    (s := node "" [node "A" [], leaf "A", node "A" [leaf ""]])
    (t := node "" [node "A" [leaf ""], leaf "A", node "A" []]) .square (.text "-->") rfl rfl
  refine ⟨ps, qs, hps, hqs, ?_, g, hg, hcontains, hsize.trans ?_, hstart⟩
  · rw [Bool.eq_false_iff]
    exact fun hsame => absurd ((hiff hopen hopen').mp hsame) (by decide)
  · simp [subtrees, subtreesFrom]

end Tree

end PhraseStructure
