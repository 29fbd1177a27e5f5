import PhraseStructure.Proofs.Production.RoundTrip
import PhraseStructure.Tree.Derivation

/-!
# The productions of a tree as a derivation

A production is applied to a sequence of symbols by replacing the leftmost symbol that is no
terminal, which has to be the head of the production (`Production.rewriteLeftmost`). The productions
of a tree, applied one after another to its label, derive the words of the tree
(`deriveLeftmost_productions`). On the way the sequence consists of terminals that are finished and
of a symbol for each tree on the agenda of the traversal (`deriveLeftmost_licenses`).
-/

namespace PhraseStructure

namespace Production

/-- The sequence with its leftmost non-terminal replaced, if this is the head of the production. -/
def rewriteLeftmost (p : Production) : List Symbol → Option (List Symbol)
  | [] => none
  | s :: form =>
      if s.isTerminal then (p.rewriteLeftmost form).map (s :: ·)
      else if [s] == p.head then some (p.daughters ++ form) else none

/-- Applies productions one after another, each to the leftmost non-terminal. -/
def deriveLeftmost : List Production → List Symbol → Option (List Symbol)
  | [], form => some form
  | p :: ps, form => (p.rewriteLeftmost form).bind (deriveLeftmost ps)

/-- Only terminals stand before the symbol that is replaced. -/
theorem rewriteLeftmost_eq_some_iff {p : Production} {form result : List Symbol} :
    p.rewriteLeftmost form = some result ↔
      ∃ front s rest, form = front ++ s :: rest ∧ (∀ a ∈ front, a.isTerminal = true) ∧
        s.isTerminal = false ∧ ([s] == p.head) = true ∧ result = front ++ p.daughters ++ rest := by
  induction form generalizing result with
  | nil => simp [rewriteLeftmost]
  | cons s form ih =>
    rw [rewriteLeftmost]
    by_cases hs : s.isTerminal = true
    · rw [if_pos hs, Option.map_eq_some_iff]
      constructor
      · rintro ⟨later, hlater, rfl⟩
        obtain ⟨front, a, rest, rfl, hfront, ha, hhead, rfl⟩ := ih.mp hlater
        exact ⟨s :: front, a, rest, rfl, List.forall_mem_cons.mpr ⟨hs, hfront⟩, ha, hhead, rfl⟩
      · rintro ⟨front, a, rest, hform, hfront, ha, hhead, rfl⟩
        cases front with
        | nil =>
          obtain ⟨rfl, -⟩ := List.cons.inj hform
          exact absurd hs (by simp [ha])
        | cons b front =>
          obtain ⟨rfl, rfl⟩ := List.cons.inj hform
          have hrest := (List.forall_mem_cons.mp hfront).2
          exact ⟨_, ih.mpr ⟨front, a, rest, rfl, hrest, ha, hhead, rfl⟩, rfl⟩
    · rw [if_neg hs, Option.ite_none_right_eq_some]
      constructor
      · rintro ⟨hhead, hresult⟩
        exact ⟨[], s, form, rfl, by simp, by simpa using hs, hhead, by simpa using hresult.symm⟩
      · rintro ⟨front, a, rest, hform, hfront, ha, hhead, rfl⟩
        cases front with
        | nil =>
          obtain ⟨rfl, rfl⟩ := List.cons.inj hform
          exact ⟨hhead, rfl⟩
        | cons b front =>
          obtain ⟨rfl, -⟩ := List.cons.inj hform
          exact absurd (hfront s (by simp)) hs

end Production

namespace Tree

section Mapping

variable {α β : Type}

/-- Words and labels are changed in one tree after the other. -/
theorem mapAll_eq_map (f : α → β) (ts : List (Tree α)) : mapAll f ts = ts.map (Tree.map f) := by
  induction ts with
  | nil => rfl
  | cons t ts ih => rw [mapAll, ih, List.map_cons]

/-- Words and labels do not matter for the order of the traversal. -/
theorem preorderFrom_map (f : α → β) (agenda : List (Tree α)) :
    preorderFrom (agenda.map (Tree.map f)) = (preorderFrom agenda).map (Tree.map f) := by
  induction agenda using preorderFrom.induct with
  | case1 => rw [List.map_nil, preorderFrom, preorderFrom, List.map_nil]
  | case2 word rest ih =>
    rw [List.map_cons, Tree.map, preorderFrom, ih, preorderFrom, List.map_cons, Tree.map]
  | case3 label children rest ih =>
    rw [List.map_cons, Tree.map, preorderFrom, mapAll_eq_map, ← List.map_append, ih, preorderFrom,
      List.map_cons, Tree.map, mapAll_eq_map]

/-- A tree with other words and labels is a node if it was one. -/
theorem isNode_map (f : α → β) (t : Tree α) : (t.map f).isNode = t.isNode := by
  cases t <;> rfl

/-- Words and labels do not matter for which nodes are found. -/
theorem subtrees_map (f : α → β) (t : Tree α) :
    (t.map f).subtrees (fun _ => true) = (t.subtrees fun _ => true).map (Tree.map f) := by
  rw [subtrees_eq_filter, subtrees_eq_filter, preorder, preorder, ← List.map_singleton,
    preorderFrom_map, List.filter_map]
  simp only [Function.comp_def, isNode_map]

end Mapping

variable {b : Brackets}

/-- A word as a terminal. -/
def terminal (b : Brackets) (word : String) : Symbol :=
  ⟨String.singleton b.opening ++ word ++ String.singleton b.closing, b⟩

/-- The symbol that a tree is under its parent. -/
def symbolUnder (b : Brackets) : Tree String → Symbol
  | leaf word => terminal b word
  | node label _ => ⟨label, b⟩

/-- The production that licenses a node: its label is replaced by what is directly under it. -/
def license (b : Brackets) (t : Tree String) : Production :=
  ⟨[⟨t.caption, b⟩], t.children.map (symbolUnder b), by simp⟩

/-- Whatever a word is, it is enclosed in the brackets. -/
theorem isTerminal_terminal (b : Brackets) (word : String) :
    (terminal b word).isTerminal = true := by
  have htext : (terminal b word).text.toList = b.opening :: (word.toList ++ [b.closing]) := by
    simp [terminal]
  have hlast : (word.toList ++ [b.closing]).getLast? = some b.closing := List.getLast?_concat
  rw [Symbol.isTerminal, htext]
  cases hrest : word.toList ++ [b.closing] with
  | nil => simp at hrest
  | cons c cs =>
    rw [hrest] at hlast
    simp [hlast, terminal]

section Reading

/-- The label of a node, or the word of a leaf, is changed with the others. -/
theorem caption_map {α β : Type} (f : α → β) (t : Tree α) : (t.map f).caption = f t.caption := by
  cases t <;> rfl

/-- What is under a tree is changed as the tree is. -/
theorem children_map {α β : Type} (f : α → β) (t : Tree α) :
    (t.map f).children = t.children.map (Tree.map f) := by
  cases t with
  | leaf word => rfl
  | node label children => exact mapAll_eq_map f children

/-- A tree over texts stands for a symbol in the production of its parent. -/
theorem symbolOf_map_text (b : Brackets) (t : Tree String) :
    symbolOf (.text b.text) (t.map .text) = .ok (.text (symbolUnder b t).text) := by
  cases t with
  | leaf word =>
    have helements : (Datum.text b.text).elements? =
        some [.text (String.singleton b.opening), .text (String.singleton b.closing)] := by
      simp [Datum.elements?, Brackets.text, Brackets.toChars]
    simp only [Tree.map, symbolOf, terminalText, helements]
    rfl
  | node label children => rfl

/-- A node has its production, whatever the texts in the tree are. -/
theorem production_map_text (b : Brackets) (t : Tree String) :
    (t.map .text).production (.text b.text) = .ok (license b t) := by
  have hdaughters : (t.map Datum.text).children.mapM (symbolOf (.text b.text)) =
      .ok ((t.children.map fun s => (symbolUnder b s).text).map .text) := by
    rw [children_map, mapM_eq_ok_iff, List.map_map, List.forall₂_map_left_iff,
      List.forall₂_map_right_iff, List.forall₂_same]
    exact fun s _ => symbolOf_map_text b s
  have hlabel : Production.readSide (t.map Datum.text).caption (.text b.text) =
      .ok [⟨t.caption, b⟩] := by
    rw [caption_map]
    exact Production.readSide_map_text [t.caption] b
  have hbrackets : ∀ s, (⟨(symbolUnder b s).text, b⟩ : Symbol) = symbolUnder b s := by
    rintro (word | ⟨label, children⟩) <;> rfl
  have hsymbols : (t.children.map fun s => (symbolUnder b s).text).map (Symbol.mk · b) =
      t.children.map (symbolUnder b) := by
    simp only [List.map_map, Function.comp_def, hbrackets]
  refine bind_eq_ok_iff.mpr ⟨_, hdaughters, bind_eq_ok_iff.mpr ⟨_, hlabel, ?_⟩⟩
  rw [dif_pos (by simp)]
  refine bind_eq_ok_iff.mpr ⟨_, Production.readSide_map_text _ b, ?_⟩
  simp only [hsymbols]
  rfl

/-- The productions of a tree over texts are those that license its nodes. -/
theorem productions_map_text (b : Brackets) (t : Tree String) :
    (t.map .text).productions (.text b.text) =
      .ok ((t.subtrees fun _ => true).map (license b)) := by
  rw [productions, subtrees_map, mapM_eq_ok_iff, List.forall₂_map_left_iff,
    List.forall₂_map_right_iff, List.forall₂_same]
  exact fun s _ => production_map_text b s

end Reading

/-- The words of the trees on an agenda and below. -/
def wordsFrom (agenda : List (Tree String)) : List String :=
  (preorderFrom agenda).filterMap fun
    | leaf word => some word
    | node _ _ => none

/-- The words of a single tree are its leaves. -/
theorem wordsFrom_singleton (t : Tree String) : wordsFrom [t] = t.leaves := by
  rw [wordsFrom, leaves, preorder]
  congr 1
  funext s
  cases s <;> rfl

/-- The productions of the nodes on an agenda and below. -/
def licensesFrom (b : Brackets) (agenda : List (Tree String)) : List Production :=
  ((preorderFrom agenda).filter isNode).map (license b)

/-- Behind finished terminals stands a symbol for each tree on the agenda, and the productions of
the agenda turn these into its words. -/
theorem deriveLeftmost_licensesFrom {agenda : List (Tree String)} {front : List Symbol}
    (hfront : ∀ s ∈ front, s.isTerminal = true)
    (hlabels : ∀ t ∈ preorderFrom agenda, t.isNode = true →
      (⟨t.caption, b⟩ : Symbol).isTerminal = false) :
    Production.deriveLeftmost (licensesFrom b agenda) (front ++ agenda.map (symbolUnder b)) =
      some (front ++ (wordsFrom agenda).map (terminal b)) := by
  induction agenda using preorderFrom.induct generalizing front with
  | case1 => simp [licensesFrom, wordsFrom, preorderFrom, Production.deriveLeftmost]
  | case2 word rest ih =>
    have hfinished : ∀ s ∈ front ++ [terminal b word], s.isTerminal = true := by
      rw [List.forall_mem_append, List.forall_mem_singleton]
      exact ⟨hfront, isTerminal_terminal b word⟩
    rw [preorderFrom] at hlabels
    have hrest := ih hfinished (List.forall_mem_cons.mp hlabels).2
    simpa [licensesFrom, wordsFrom, preorderFrom, symbolUnder, isNode] using hrest
  | case3 label children rest ih =>
    rw [preorderFrom, List.forall_mem_cons] at hlabels
    have hrest := ih hfront hlabels.2
    have hstep : (license b (node label children)).rewriteLeftmost
        (front ++ (node label children :: rest).map (symbolUnder b)) =
          some (front ++ (children ++ rest).map (symbolUnder b)) := by
      refine Production.rewriteLeftmost_eq_some_iff.mpr
        ⟨front, _, _, rfl, hfront, hlabels.1 rfl, BEq.rfl, ?_⟩
      simp [license, Tree.children]
    have hlicenses : licensesFrom b (node label children :: rest) =
        license b (node label children) :: licensesFrom b (children ++ rest) := by
      rw [licensesFrom, preorderFrom, List.filter_cons_of_pos rfl]
      rfl
    have hwords : wordsFrom (node label children :: rest) = wordsFrom (children ++ rest) := by
      simp [wordsFrom, preorderFrom]
    rw [hlicenses, hwords, Production.deriveLeftmost, hstep, ← hrest]
    rfl

/-- The productions of a tree without terminals among its labels are a leftmost derivation of its
words from its label: each is applied to the leftmost symbol that is no terminal, which is its
head, and after the last one nothing but the words as terminals is left. -/
theorem deriveLeftmost_productions {label : String} {children : List (Tree String)}
    (h : ∀ t ∈ (node label children).subtrees fun _ => true,
      (⟨t.caption, b⟩ : Symbol).isTerminal = false) :
    ∃ ps, ((node label children).map .text).productions (.text b.text) = .ok ps ∧
      Production.deriveLeftmost ps [⟨label, b⟩] =
        some ((node label children).leaves.map (terminal b)) ∧
      ∀ s ∈ (node label children).leaves.map (terminal b), s.isTerminal = true := by
  have hlabels : ∀ t ∈ preorderFrom [node label children], t.isNode = true →
      (⟨t.caption, b⟩ : Symbol).isTerminal = false := by
    intro t ht hnode
    rw [subtrees_eq_filter] at h
    exact h t (List.mem_filter.mpr ⟨ht, by simp [hnode]⟩)
  have hlicenses : ((node label children).subtrees fun _ => true).map (license b) =
      licensesFrom b [node label children] := by
    simp [subtrees_eq_filter, preorder, licensesFrom]
  refine ⟨_, productions_map_text b _, ?_, ?_⟩
  · rw [hlicenses]
    have hnone : ∀ s ∈ ([] : List Symbol), s.isTerminal = true := by simp
    rw [← wordsFrom_singleton]
    exact deriveLeftmost_licensesFrom hnone hlabels
  · rw [List.forall_mem_map]
    exact fun word _ => isTerminal_terminal b word

/-- A tree with a label that is empty, a node without children, and a leaf that is the label of a
node. -/
theorem deriveLeftmost_productions_unlabelled :
    ∃ ps, ((node "" [node "A" [], leaf "A", node "A" [leaf ""]]).map .text).productions
        (.text Brackets.square.text) = .ok ps ∧
      Production.deriveLeftmost ps [⟨"", .square⟩] =
        some [⟨"[A]", .square⟩, ⟨"[]", .square⟩] := by
  have hlabels : ∀ t ∈ (node "" [node "A" [], leaf "A", node "A" [leaf ""]]).subtrees fun _ => true,
      (⟨t.caption, .square⟩ : Symbol).isTerminal = false := by
    simp [subtrees, subtreesFrom, caption, Symbol.isTerminal]
  obtain ⟨ps, hps, hderived, -⟩ := deriveLeftmost_productions hlabels
  have hleaves : (node "" [node "A" [], leaf "A", node "A" [leaf ""]]).leaves = ["A", ""] := by
    simp [leaves, preorder, preorderFrom]
  refine ⟨ps, hps, hderived.trans ?_⟩
  rw [hleaves]
  cbv

end Tree

end PhraseStructure
