import PhraseStructure.Proofs.Tree.Derivation

/-!
# What stands at the positions of a tree

A tree has a position for each leaf, and for each node before or behind those of its children, as
the order says. At the positions stand the trees that are visited in this order
(`map_get?_positions`). The order in which a node follows what is under it visits as many trees as
the traversal with an agenda does (`length_visits_after`, `length_preorder`).
-/

namespace PhraseStructure.Tree

variable {α β : Type}

mutual

/-- The tree and the trees below it, in a chosen order. -/
def visits (order : Order) : Tree α → List (Tree α)
  | leaf word => [leaf word]
  | node label children =>
      (if order = .before ∨ order = .both then [node label children] else []) ++
        visitsAll order children ++
        (if order = .after ∨ order = .both then [node label children] else [])

/-- The trees in a sequence and below them, in a chosen order. -/
def visitsAll (order : Order) : List (Tree α) → List (Tree α)
  | [] => []
  | t :: ts => visits order t ++ visitsAll order ts

end

section Standing

/-- A position below a node leads to one of its children first. -/
theorem get?_node_cons (label : α) (ts : List (Tree α)) (i : Nat) (path : List Nat) :
    (node label ts).get? (i :: path) = ts[i]?.bind (get? · path) := by
  rw [get?, Tree.children]
  cases ts[i]? <;> rfl

mutual

/-- At the positions of a tree stand the trees that are visited. -/
theorem map_get?_positions (order : Order) : (t : Tree α) →
    (t.positions order).map t.get? = (t.visits order).map some
  | leaf word => by simp [positions, visits, get?]
  | node label children => by
    have hroot : ∀ c : Prop, [Decidable c] →
        (if c then [[]] else [] : List (List Nat)).map (node label children).get? =
          (if c then [node label children] else []).map some := by
      intro c _
      split <;> simp [get?]
    have hbelow := map_get?_positionsAll order label [] children
    rw [List.length_nil, List.nil_append] at hbelow
    simp only [positions, visits, List.map_append, hroot, hbelow]

/-- At the positions below a node stand the trees that are visited there, in the same order. -/
theorem map_get?_positionsAll (order : Order) (label : α) (front : List (Tree α)) :
    (ts : List (Tree α)) →
    (positionsAll order front.length ts).map (node label (front ++ ts)).get? =
      (visitsAll order ts).map some
  | [] => rfl
  | t :: ts => by
    -- `front` holds the children whose positions are done; the first one left goes there next.
    have hfirst : ((t.positions order).map (front.length :: ·)).map
        (node label (front ++ t :: ts)).get? = (t.positions order).map t.get? := by
      rw [List.map_map]
      refine List.map_congr_left fun path _ => ?_
      rw [Function.comp_apply, get?_node_cons]
      simp
    have hrest := map_get?_positionsAll order label (front ++ [t]) ts
    rw [List.length_append, List.length_singleton, List.append_assoc,
      List.singleton_append] at hrest
    rw [positionsAll, visitsAll, List.map_append, List.map_append, hfirst, hrest,
      map_get?_positions order t]

end

end Standing

section Visiting

variable {order : Order} {label : α} {children : List (Tree α)} {u : Tree α}

/-- What is visited of a node is the node, or it is visited below. -/
theorem eq_or_mem_of_mem_visits (h : u ∈ (node label children).visits order) :
    u = node label children ∨ u ∈ visitsAll order children := by
  have hroot : ∀ c : Prop, [Decidable c] →
      u ∈ (if c then [node label children] else []) → u = node label children := by
    intro c _ hmem
    split at hmem
    · exact List.mem_singleton.mp hmem
    · cases hmem
  rw [visits, List.mem_append, List.mem_append] at h
  rcases h with (hfront | hbelow) | hback
  · exact .inl (hroot _ hfront)
  · exact .inr hbelow
  · exact .inl (hroot _ hback)

mutual

/-- No tree that is visited is larger than the whole. -/
theorem size_le_of_mem_visits {u : Tree α} : (t : Tree α) → u ∈ t.visits order → u.size ≤ t.size
  | leaf word, h => by rw [List.mem_singleton.mp h]
  | node label children, h => by
    rcases eq_or_mem_of_mem_visits h with rfl | hbelow
    · exact Nat.le_refl _
    · have hle := size_le_of_mem_visitsAll children hbelow
      rw [size]
      omega

/-- No tree that is visited in a sequence is larger than the whole. -/
theorem size_le_of_mem_visitsAll {u : Tree α} : (ts : List (Tree α)) → u ∈ visitsAll order ts →
    u.size ≤ sizeAll ts
  | t :: ts, h => by
    rw [sizeAll]
    rcases List.mem_append.mp h with hfirst | hrest
    · have hle := size_le_of_mem_visits t hfirst
      omega
    · have hle := size_le_of_mem_visitsAll ts hrest
      omega

end

end Visiting

section Counting

mutual

/-- Every node and every leaf is visited once. -/
theorem length_visits_after : (t : Tree α) → (t.visits .after).length = t.size
  | leaf _ => rfl
  | node label children => by
    have hbelow := length_visitsAll_after children
    simp only [visits, size, reduceCtorEq, or_self, or_false, if_true, if_false, List.nil_append,
      List.length_append, List.length_singleton, hbelow]
    omega

/-- Every node and every leaf in a sequence of trees is visited once. -/
theorem length_visitsAll_after : (ts : List (Tree α)) → (visitsAll .after ts).length = sizeAll ts
  | [] => rfl
  | t :: ts => by
    rw [visitsAll, sizeAll, List.length_append, length_visits_after t, length_visitsAll_after ts]

end

/-- The agenda comes to every node and every leaf once. -/
theorem length_preorderFrom (agenda : List (Tree α)) :
    (preorderFrom agenda).length = sizeAll agenda := by
  induction agenda using preorderFrom.induct with
  | case1 =>
    rw [preorderFrom]
    rfl
  | case2 word rest ih =>
    rw [preorderFrom, List.length_cons, ih, sizeAll, size]
    omega
  | case3 label children rest ih =>
    rw [preorderFrom, List.length_cons, ih, sizeAll, size, sizeAll_append]
    omega

/-- The traversal with an agenda visits every node and every leaf once. -/
theorem length_preorder (t : Tree α) : t.preorder.length = t.size := by
  rw [preorder, length_preorderFrom, sizeAll, sizeAll, Nat.add_zero]

end Counting

section Mapping

mutual

/-- Words and labels do not matter for the positions. -/
theorem positions_map (f : α → β) (order : Order) : (t : Tree α) →
    (t.map f).positions order = t.positions order
  | leaf _ => by simp only [Tree.map, positions]
  | node label children => by
    simp only [Tree.map, positions, positionsAll_mapAll f order 0 children]

/-- Words and labels do not matter for the positions in a sequence of trees. -/
theorem positionsAll_mapAll (f : α → β) (order : Order) (i : Nat) : (ts : List (Tree α)) →
    positionsAll order i (mapAll f ts) = positionsAll order i ts
  | [] => by simp only [mapAll, positionsAll]
  | t :: ts => by
    simp only [mapAll, positionsAll, positions_map f order t,
      positionsAll_mapAll f order (i + 1) ts]

end

mutual

/-- Words and labels do not matter for the size of a tree. -/
theorem size_map (f : α → β) : (t : Tree α) → (t.map f).size = t.size
  | leaf _ => by simp only [Tree.map, size]
  | node label children => by simp only [Tree.map, size, sizeAll_mapAll f children]

/-- Words and labels do not matter for the size of a sequence of trees. -/
theorem sizeAll_mapAll (f : α → β) : (ts : List (Tree α)) → sizeAll (mapAll f ts) = sizeAll ts
  | [] => by simp only [mapAll, sizeAll]
  | t :: ts => by simp only [mapAll, sizeAll, size_map f t, sizeAll_mapAll f ts]

end

end Mapping

end PhraseStructure.Tree
