/-!
# Trees

A tree is a leaf, which holds a word, or a node with a label and a sequence of trees under it. What
words and labels are is left open: they are texts in a tree that is read or written. The traversals
keep an agenda of the trees that are still to be visited; they end because the agenda becomes
smaller with every visit.
-/

namespace PhraseStructure

/-- A labelled tree over words. -/
inductive Tree (α : Type)
  | leaf (word : α)
  | node (label : α) (children : List (Tree α))
  deriving Inhabited

namespace Tree

variable {α : Type}

mutual

/-- Equality of trees can be decided. -/
def decideEq [DecidableEq α] : (s t : Tree α) → Decidable (s = t)
  | leaf v, leaf w =>
      if h : v = w then isTrue (by rw [h]) else isFalse (by simpa using h)
  | leaf _, node _ _ => isFalse (by simp)
  | node _ _, leaf _ => isFalse (by simp)
  | node k ss, node l ts =>
      if h : k = l then
        match decideEqAll ss ts with
        | isTrue h' => isTrue (by rw [h, h'])
        | isFalse h' => isFalse (by simp [h'])
      else isFalse (by simp [h])

/-- Equality of sequences of trees can be decided. -/
def decideEqAll [DecidableEq α] : (ss ts : List (Tree α)) → Decidable (ss = ts)
  | [], [] => isTrue rfl
  | [], _ :: _ => isFalse (by simp)
  | _ :: _, [] => isFalse (by simp)
  | s :: ss, t :: ts =>
      match decideEq s t with
      | isTrue h =>
          match decideEqAll ss ts with
          | isTrue h' => isTrue (by rw [h, h'])
          | isFalse h' => isFalse (by simp [h'])
      | isFalse h => isFalse (by simp [h])

end

instance [DecidableEq α] : DecidableEq (Tree α) := decideEq

mutual

/-- The tree with other words and labels. -/
def map {β : Type} (f : α → β) : Tree α → Tree β
  | leaf word => leaf (f word)
  | node label children => node (f label) (mapAll f children)

/-- A sequence of trees with other words and labels. -/
def mapAll {β : Type} (f : α → β) : List (Tree α) → List (Tree β)
  | [] => []
  | t :: ts => map f t :: mapAll f ts

end

mutual

/-- The number of nodes and leaves. -/
def size : Tree α → Nat
  | leaf _ => 1
  | node _ children => 1 + sizeAll children

/-- The number of nodes and leaves in a sequence of trees. -/
def sizeAll : List (Tree α) → Nat
  | [] => 0
  | t :: ts => size t + sizeAll ts

end

/-- The sizes of two sequences of trees add up. -/
theorem sizeAll_append (ss ts : List (Tree α)) : sizeAll (ss ++ ts) = sizeAll ss + sizeAll ts := by
  induction ss with
  | nil => simp [sizeAll]
  | cons s ss ih => simp [sizeAll, ih, Nat.add_assoc]

/-- The order of trees does not matter for their size. -/
theorem sizeAll_reverse (ts : List (Tree α)) : sizeAll ts.reverse = sizeAll ts := by
  induction ts with
  | nil => rfl
  | cons t ts ih => rw [List.reverse_cons, sizeAll_append, ih, sizeAll, sizeAll, sizeAll]; omega

/-- Leaving out trees makes a sequence no larger. -/
theorem sizeAll_filter_le (keep : Tree α → Bool) (ts : List (Tree α)) :
    sizeAll (ts.filter keep) ≤ sizeAll ts := by
  induction ts with
  | nil => exact Nat.le_refl _
  | cons t ts ih =>
    by_cases ht : keep t = true
    · rw [List.filter_cons_of_pos ht, sizeAll, sizeAll]
      omega
    · rw [List.filter_cons_of_neg ht, sizeAll]
      omega

/-- Whether the tree is a node. -/
def isNode : Tree α → Bool
  | leaf _ => false
  | node _ _ => true

/-- The trees directly under a tree. -/
def children : Tree α → List (Tree α)
  | leaf _ => []
  | node _ children => children

/-- What is under a tree is smaller than the tree. -/
theorem sizeAll_children_lt (t : Tree α) : sizeAll t.children < t.size := by
  cases t <;> simp [children, size, sizeAll]

/-- The label of a node, or the word of a leaf. -/
def caption : Tree α → α
  | leaf word => word
  | node label _ => label

/-- The trees on an agenda and below, each before those under it. -/
def preorderFrom : List (Tree α) → List (Tree α)
  | [] => []
  | leaf word :: rest => leaf word :: preorderFrom rest
  | node label children :: rest => node label children :: preorderFrom (children ++ rest)
termination_by agenda => sizeAll agenda
decreasing_by
  all_goals simp only [sizeAll, size, sizeAll_append]
  all_goals omega

/-- The tree and all trees below, each before those under it. -/
def preorder (t : Tree α) : List (Tree α) := preorderFrom [t]

/-- The nodes on an agenda and below that satisfy a condition, each before those under it. What is
under a node is gone through whether the node satisfies the condition or not. -/
def subtreesFrom (condition : Tree α → Bool) : List (Tree α) → List (Tree α)
  | [] => []
  | leaf _ :: rest => subtreesFrom condition rest
  | node label children :: rest =>
      (if condition (node label children) then [node label children] else []) ++
        subtreesFrom condition (children ++ rest)
termination_by agenda => sizeAll agenda
decreasing_by
  all_goals simp only [sizeAll, size, sizeAll_append]
  all_goals omega

/-- The nodes of the tree that satisfy a condition, each before those under it. -/
def subtrees (t : Tree α) (condition : Tree α → Bool) : List (Tree α) := subtreesFrom condition [t]

/-- The nodes are found in the order in which all trees are visited. -/
theorem subtreesFrom_eq_filter (condition : Tree α → Bool) (agenda : List (Tree α)) :
    subtreesFrom condition agenda =
      (preorderFrom agenda).filter fun t => t.isNode && condition t := by
  induction agenda using preorderFrom.induct with
  | case1 => simp [subtreesFrom, preorderFrom]
  | case2 word rest ih => simp [subtreesFrom, preorderFrom, ih, isNode]
  | case3 label children rest ih =>
    rw [subtreesFrom, preorderFrom, ih, List.filter_cons]
    by_cases hcondition : condition (node label children) <;> simp [isNode, hcondition]

/-- The subtrees of a tree are those of all trees in it that are nodes and satisfy the condition. -/
theorem subtrees_eq_filter (t : Tree α) (condition : Tree α → Bool) :
    t.subtrees condition = t.preorder.filter fun s => s.isNode && condition s :=
  subtreesFrom_eq_filter condition [t]

/-- The words of the leaves, from left to right. -/
def leaves (t : Tree α) : List α :=
  t.preorder.filterMap fun
    | leaf word => some word
    | node _ _ => none

/-- The greatest depth of a node on an agenda or below, or `greatest` if that is more. The last of
the nodes under a tree is gone into first. -/
def heightFrom (greatest : Nat) : List (Tree α × Nat) → Nat
  | [] => greatest
  | (t, depth) :: rest =>
      heightFrom (max greatest depth)
        (((t.children.filter isNode).map (·, depth + 1)).reverse ++ rest)
termination_by agenda => sizeAll (agenda.map Prod.fst)
decreasing_by
  have hchildren := sizeAll_children_lt t
  have hfilter := sizeAll_filter_le isNode t.children
  simp only [List.map_append, List.map_reverse, List.map_map, List.map_cons, sizeAll_append,
    sizeAll_reverse, sizeAll, Function.comp_def, List.map_id']
  omega

/-- The number of nodes on the longest way from the root downwards; leaves do not count. -/
def height (t : Tree α) : Nat := heightFrom 0 [(t, 1)]

/-- The tree of the same label in which all leaves stand directly under the root. -/
def flatten (t : Tree α) : Tree α := node t.caption (t.leaves.map leaf)

/-- Whether there is nothing under the tree. -/
def isBare (t : Tree α) : Bool := t.children.isEmpty

/-- The orders in which positions may be listed: a node before its descendants, after them, at both
places, or not at all. -/
inductive Order
  | before
  | after
  | both
  | leavesOnly
  deriving DecidableEq, Repr

/-- The order of a name. Any other name leaves the nodes out. -/
def Order.ofName : String → Order
  | "preorder" => before
  | "postorder" => after
  | "bothorder" => both
  | _ => leavesOnly

mutual

/-- The positions of the nodes and leaves in the tree, in a chosen order. A position lists, from the
root down, the place of each tree among those beside it. -/
def positions (order : Order) : Tree α → List (List Nat)
  | leaf _ => [[]]
  | node _ children =>
      (if order = .before ∨ order = .both then [[]] else []) ++ positionsAll order 0 children ++
        (if order = .after ∨ order = .both then [[]] else [])

/-- The positions in a sequence of trees of which the first has place `i`. -/
def positionsAll (order : Order) (i : Nat) : List (Tree α) → List (List Nat)
  | [] => []
  | t :: ts => (positions order t).map (i :: ·) ++ positionsAll order (i + 1) ts

end

/-- The tree at a position. -/
def get? : Tree α → List Nat → Option (Tree α)
  | t, [] => some t
  | t, i :: path =>
      match t.children[i]? with
      | some child => child.get? path
      | none => none
termination_by _ path => path.length

end Tree

end PhraseStructure
