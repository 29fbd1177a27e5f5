import Mathlib.Algebra.GroupWithZero.Nat
import PhraseStructure.Proofs.Tree.Derivation

/-!
# Counting the nodes and words of a tree

How many nodes and words there are in a tree, and how high it is, follows from what is directly
under each node. A tree is given a weight, which is one less for a node than for a leaf. If what is
under each node weighs as much as a leaf, the words and the nodes are counted together
(`mul_length_wordsFrom`). If no node has two nodes under it, every node is on the longest way
downwards (`heightFrom_eq`).
-/

namespace PhraseStructure.Tree

variable {agenda rest : List (Tree String)} {children : List (Tree String)} {label word : String}
  {t : Tree String} {k : Nat}

/-- The nodes on an agenda and below. -/
def nodesFrom (agenda : List (Tree String)) : List (Tree String) :=
  (preorderFrom agenda).filter isNode

/-- Without a condition, all nodes of a tree are found. -/
theorem subtrees_eq_nodesFrom (t : Tree String) : t.subtrees (fun _ => true) = nodesFrom [t] := by
  simp only [subtrees_eq_filter, preorder, nodesFrom, Bool.and_true]

section Visiting

/-- There are no nodes on an empty agenda. -/
@[simp] theorem nodesFrom_nil : nodesFrom [] = [] := by simp [nodesFrom, preorderFrom]

/-- There is no node in a leaf. -/
@[simp] theorem nodesFrom_leaf : nodesFrom (leaf word :: rest) = nodesFrom rest := by
  simp [nodesFrom, preorderFrom, isNode]

/-- A node comes before those under it. -/
@[simp] theorem nodesFrom_node :
    nodesFrom (node label children :: rest) =
      node label children :: nodesFrom (children ++ rest) := by
  rw [nodesFrom, preorderFrom, List.filter_cons_of_pos rfl]
  rfl

/-- There are no words on an empty agenda. -/
@[simp] theorem wordsFrom_nil : wordsFrom [] = [] := by simp [wordsFrom, preorderFrom]

/-- A leaf is a word. -/
@[simp] theorem wordsFrom_leaf : wordsFrom (leaf word :: rest) = word :: wordsFrom rest := by
  simp [wordsFrom, preorderFrom]

/-- The words of a node are those under it. -/
@[simp] theorem wordsFrom_node :
    wordsFrom (node label children :: rest) = wordsFrom (children ++ rest) := by
  simp [wordsFrom, preorderFrom]

/-- A node on the agenda is one of the nodes. -/
theorem mem_nodesFrom (ht : t ∈ agenda) (hnode : t.isNode = true) : t ∈ nodesFrom agenda := by
  induction agenda using preorderFrom.induct with
  | case1 => simp at ht
  | case2 word rest ih =>
    rcases List.mem_cons.mp ht with rfl | hrest
    · cases hnode
    · rw [nodesFrom_leaf]
      exact ih hrest
  | case3 label children rest ih =>
    rw [nodesFrom_node, List.mem_cons]
    rcases List.mem_cons.mp ht with heq | hrest
    · exact .inl heq
    · exact .inr (ih (List.mem_append_right children hrest))

/-- A node directly under one that is visited is visited as well. -/
theorem mem_nodesFrom_of_mem_children {s : Tree String} (ht : t ∈ nodesFrom agenda)
    (hs : s ∈ t.children) (hnode : s.isNode = true) : s ∈ nodesFrom agenda := by
  induction agenda using preorderFrom.induct with
  | case1 => simp at ht
  | case2 word rest ih =>
    rw [nodesFrom_leaf] at ht ⊢
    exact ih ht
  | case3 label children rest ih =>
    rw [nodesFrom_node, List.mem_cons] at ht ⊢
    rcases ht with rfl | hrest
    · exact .inr (mem_nodesFrom (List.mem_append_left rest hs) hnode)
    · exact .inr (ih hrest)

/-- Trees on the agenda are visited one after another. -/
theorem nodesFrom_append (agenda rest : List (Tree String)) :
    nodesFrom (agenda ++ rest) = nodesFrom agenda ++ nodesFrom rest := by
  induction agenda using preorderFrom.induct with
  | case1 => rw [nodesFrom_nil, List.nil_append, List.nil_append]
  | case2 word agenda ih => rw [List.cons_append, nodesFrom_leaf, nodesFrom_leaf, ih]
  | case3 label children agenda ih =>
    rw [List.cons_append, nodesFrom_node, nodesFrom_node, List.cons_append, ← List.append_assoc, ih]

/-- Leaves on the agenda do not matter for the nodes. -/
theorem nodesFrom_filter (agenda : List (Tree String)) :
    nodesFrom (agenda.filter isNode) = nodesFrom agenda := by
  induction agenda with
  | nil => rfl
  | cons t agenda ih =>
    cases t with
    | leaf word => rw [List.filter_cons_of_neg (by simp [isNode]), ih, nodesFrom_leaf]
    | node label children =>
      rw [List.filter_cons_of_pos rfl, nodesFrom_node, nodesFrom_node, nodesFrom_append, ih,
        nodesFrom_append]

end Visiting

section Weighing

/-- The weight of a tree where a leaf weighs `k`: a node weighs one less. -/
def weight (k : Nat) : Tree String → Nat
  | leaf _ => k
  | node _ _ => k - 1

/-- If what is directly under each node weighs as much as a leaf, each word counts as often as a
leaf weighs, and each node once. -/
theorem mul_length_wordsFrom (hk : 0 < k)
    (h : ∀ t ∈ nodesFrom agenda, (t.children.map (weight k)).sum = k) :
    k * (wordsFrom agenda).length = (nodesFrom agenda).length + (agenda.map (weight k)).sum := by
  induction agenda using preorderFrom.induct with
  | case1 => simp
  | case2 word rest ih =>
    rw [nodesFrom_leaf] at h
    have hrest := ih h
    simp only [wordsFrom_leaf, nodesFrom_leaf, List.length_cons, List.map_cons, List.sum_cons,
      weight, Nat.mul_succ]
    omega
  | case3 label children rest ih =>
    rw [nodesFrom_node, List.forall_mem_cons] at h
    have hrest := ih h.2
    have hunder : (children.map (weight k)).sum = k := h.1
    rw [List.map_append, List.sum_append, hunder] at hrest
    simp only [wordsFrom_node, nodesFrom_node, List.length_cons, List.map_cons, List.sum_cons,
      weight]
    omega

/-- What is under a node weighs the same in all trees with leaves and nodes at the same places. -/
theorem map_weight (k : Nat) (ts : List (Tree String)) :
    ts.map (weight k) = (ts.map isNode).map fun inner => bif inner then k - 1 else k := by
  rw [List.map_map]
  refine List.map_congr_left fun t _ => ?_
  cases t <;> rfl

/-- If there is a leaf or there are two nodes under each node, the nodes are one less than twice the
words. -/
theorem two_mul_length_leaves (ht : t.isNode = true)
    (h : ∀ s ∈ nodesFrom [t],
      s.children.map isNode = [false] ∨ s.children.map isNode = [true, true]) :
    2 * t.leaves.length = (nodesFrom [t]).length + 1 := by
  have hweight : ∀ s ∈ nodesFrom [t], (s.children.map (weight 2)).sum = 2 := by
    intro s hs
    rw [map_weight]
    rcases h s hs with hleaf | hnodes
    · rw [hleaf]
      rfl
    · rw [hnodes]
      rfl
  have hroot : ([t].map (weight 2)).sum = 1 := by
    rw [map_weight, List.map_singleton, ht]
    rfl
  rw [← wordsFrom_singleton, mul_length_wordsFrom (by decide) hweight, hroot]

end Weighing

section Height

/-- If no node has two nodes under it, the greatest depth is that of the last of the nodes. -/
theorem heightFrom_eq (ht : t.isNode = true)
    (h : ∀ s ∈ nodesFrom [t], (s.children.filter isNode).length ≤ 1) (greatest depth : Nat) :
    heightFrom greatest [(t, depth + 1)] = max greatest (depth + (nodesFrom [t]).length) := by
  -- The way downwards passes one node after another, so the induction is on their number.
  induction hn : (nodesFrom [t]).length generalizing t greatest depth with
  | zero =>
    cases t with
    | leaf word => cases ht
    | node label children => simp at hn
  | succ n ih =>
    cases t with
    | leaf word => cases ht
    | node label children =>
      rw [nodesFrom_node, List.append_nil, List.forall_mem_cons] at h
      rw [nodesFrom_node, List.append_nil, List.length_cons, Nat.succ_inj, ← nodesFrom_filter] at hn
      obtain ⟨hone, hbelow⟩ := h
      rw [← nodesFrom_filter] at hbelow
      rw [Tree.children] at hone
      rw [heightFrom, Tree.children, List.append_nil]
      have hnodes : ∀ s ∈ children.filter isNode, s.isNode = true :=
        fun s hs => (List.mem_filter.mp hs).2
      rcases hunder : children.filter isNode with - | ⟨s, - | ⟨s', others⟩⟩
      · rw [hunder] at hn
        rw [List.map_nil, List.reverse_nil, heightFrom, ← hn, nodesFrom_nil, List.length_nil]
      · rw [hunder] at hn hbelow hnodes
        rw [List.map_singleton, List.reverse_singleton, ih (hnodes s (by simp)) hbelow _ _ hn]
        omega
      · simp [hunder] at hone

/-- If there is a leaf and at most a node under each node, there are as many words as nodes, and all
nodes are on the longest way downwards. -/
theorem length_leaves_and_height (ht : t.isNode = true)
    (h : ∀ s ∈ nodesFrom [t], s.children.map isNode = [false] ∨
      s.children.map isNode = [true, false] ∨ s.children.map isNode = [false, true]) :
    t.leaves.length = (nodesFrom [t]).length ∧ (nodesFrom [t]).length = t.height := by
  constructor
  · have hweight : ∀ s ∈ nodesFrom [t], (s.children.map (weight 1)).sum = 1 := by
      intro s hs
      rw [map_weight]
      rcases h s hs with hunder | hunder | hunder <;> rw [hunder] <;> rfl
    have hroot : ([t].map (weight 1)).sum = 0 := by
      rw [map_weight, List.map_singleton, ht]
      rfl
    have hcount := mul_length_wordsFrom (by decide) hweight
    rwa [Nat.one_mul, hroot, Nat.add_zero, wordsFrom_singleton] at hcount
  · have hone : ∀ s ∈ nodesFrom [t], (s.children.filter isNode).length ≤ 1 := by
      intro s hs
      have hcount : (s.children.filter isNode).length = (s.children.map isNode).countP id := by
        rw [List.countP_map, ← List.countP_eq_length_filter]
        rfl
      rw [hcount]
      rcases h s hs with hunder | hunder | hunder <;> rw [hunder] <;> decide
    rw [height, ← Nat.zero_add 1, heightFrom_eq ht hone, Nat.zero_max, Nat.zero_add]

end Height

end PhraseStructure.Tree
