import Mathlib.Data.List.Perm.Subperm
import PhraseStructure.Proofs.Store.Unfolding
import PhraseStructure.Proofs.Tree.Positions

/-!
# What an unfolded store stands for

A tree of items stands for the tree in which each node has its label (`standing`). An item that
unfolds into a tree stands for just that tree (`Unfolds.view`): no way down leads through more nodes
than there are (`Unfolds.depth_le`), so that the steps suffice that are allowed. What is found at
the positions of the tree are its items (`Unfolds.mapM_lookUp`).
-/

namespace PhraseStructure

namespace Tree

variable {α : Type}

mutual

/-- The number of nodes on the longest way downwards. -/
def depth : Tree α → Nat
  | leaf _ => 0
  | node _ children => depthAll children + 1

/-- The number of nodes on the longest way downwards from one of several trees. -/
def depthAll : List (Tree α) → Nat
  | [] => 0
  | t :: ts => max (depth t) (depthAll ts)

end

end Tree

namespace Store

open PhraseStructure.Tree

variable {s : Store} {t u : Tree Item} {ts children : List (Tree Item)} {a label : Item}
  {id m : Nat} {order : Order}

section Names

/-- The name of a node. -/
def nodeName? : Item → Option Nat
  | .node id => some id
  | _ => none

/-- The names of the nodes in a tree of items, one for each position. -/
def namesOf (t : Tree Item) : List Nat := (t.visits .before).filterMap (nodeName? ·.caption)

/-- The names of the nodes in a sequence of trees of items. -/
def namesOfAll (ts : List (Tree Item)) : List Nat :=
  (visitsAll .before ts).filterMap (nodeName? ·.caption)

/-- Only nodes have names, each its own. -/
@[simp] theorem nodeName?_eq_some_iff : nodeName? a = some m ↔ a = .node m := by
  cases a <;> simp [nodeName?]

/-- The names in a tree are those of the nodes that stand in it. -/
theorem mem_namesOf_iff : m ∈ namesOf t ↔ ∃ u ∈ t.visits .before, u.caption = .node m := by
  simp [namesOf]

/-- The names in several trees are those of the nodes that stand in one of them. -/
theorem mem_namesOfAll_iff :
    m ∈ namesOfAll ts ↔ ∃ u ∈ visitsAll .before ts, u.caption = .node m := by
  simp [namesOfAll]

/-- The name of the root comes before those below. -/
@[simp] theorem namesOf_node : namesOf (.node (.node id) children) = id :: namesOfAll children := by
  simp [namesOf, namesOfAll, visits, caption, nodeName?]

/-- Without trees there are no names. -/
@[simp] theorem namesOfAll_nil : namesOfAll [] = [] := rfl

/-- The names in the first tree come before those in the others. -/
@[simp] theorem namesOfAll_cons : namesOfAll (t :: ts) = namesOf t ++ namesOfAll ts := by
  simp [namesOf, namesOfAll, visitsAll]

/-- The names in several trees are those in each of them, one tree after the other. -/
theorem namesOfAll_eq_flatMap : namesOfAll ts = ts.flatMap namesOf := by
  induction ts with
  | nil => rfl
  | cons t ts ih => rw [namesOfAll_cons, ih, List.flatMap_cons]

/-- There is no name in a leaf. -/
theorem Unfolds.namesOf_leaf (h : Unfolds s (.leaf a)) : namesOf (.leaf a) = [] := by
  cases a with
  | node id => exact absurd rfl (h id)
  | _ => rfl

/-- No node stands below itself. -/
theorem Unfolds.not_mem_namesOfAll (h : Unfolds s (.node (.node id) children)) :
    id ∉ namesOfAll children := by
  intro hmem
  obtain ⟨u, hu, hcaption⟩ := mem_namesOfAll_iff.mp hmem
  exact h.caption_ne hu hcaption

/-- The nodes that stand in a tree of items are in the store. -/
theorem Unfolds.lt_size_of_mem (h : Unfolds s t) (hm : m ∈ namesOf t) : m < s.cells.size := by
  obtain ⟨u, hu, hcaption⟩ := mem_namesOf_iff.mp hm
  have hunfolds := h.of_mem_visits hu
  cases u with
  | leaf a => exact absurd hcaption (hunfolds m)
  | node a children =>
    obtain ⟨⟨id, label, rfl, hcell⟩, -⟩ := hunfolds
    obtain rfl : id = m := Item.node.inj hcaption
    exact (Array.getElem?_eq_some_iff.mp (cell_eq_ok_iff.mp hcell)).1

end Names

section Depth

mutual

/-- The nodes that a way down has passed are not met again, and there are only so many nodes. -/
theorem Unfolds.depth_add_length_le : {t : Tree Item} → Unfolds s t → {above : List Nat} →
    above.Nodup → (∀ m ∈ above, m < s.cells.size) → (∀ m ∈ namesOf t, m ∉ above) →
    t.depth + above.length ≤ s.cells.size
  | .leaf a, _, above, hnodup, hlt, _ => by
    have hsub : above ⊆ List.range s.cells.size := fun m hm => List.mem_range.mpr (hlt m hm)
    have hle := (List.subperm_of_subset hnodup hsub).length_le
    rw [List.length_range] at hle
    rw [depth]
    omega
  | .node a children, h, above, hnodup, hlt, hnew => by
    have hself := h
    obtain ⟨⟨id, label, rfl, hcell⟩, hall⟩ := h
    rw [namesOf_node, List.forall_mem_cons] at hnew
    have hid : id < s.cells.size := hself.lt_size_of_mem (by simp)
    have hnew' : ∀ m ∈ namesOfAll children, m ∉ id :: above := by
      intro m hm hmem
      rcases List.mem_cons.mp hmem with rfl | hmem
      · exact hself.not_mem_namesOfAll hm
      · exact hnew.2 m hm hmem
    have hbelow := UnfoldsAll.depthAll_add_length_le hall (List.nodup_cons.mpr ⟨hnew.1, hnodup⟩)
      (List.forall_mem_cons.mpr ⟨hid, hlt⟩) hnew'
    rw [List.length_cons] at hbelow
    rw [depth]
    omega

/-- Below some nodes, trees of other nodes are not deeper than there are nodes left. -/
theorem UnfoldsAll.depthAll_add_length_le : {ts : List (Tree Item)} → UnfoldsAll s ts →
    {above : List Nat} → above.Nodup → (∀ m ∈ above, m < s.cells.size) →
    (∀ m ∈ namesOfAll ts, m ∉ above) → depthAll ts + above.length ≤ s.cells.size
  | [], _, above, hnodup, hlt, _ => by
    have hsub : above ⊆ List.range s.cells.size := fun m hm => List.mem_range.mpr (hlt m hm)
    have hle := (List.subperm_of_subset hnodup hsub).length_le
    rw [List.length_range] at hle
    rw [depthAll]
    omega
  | t :: ts, h, above, hnodup, hlt, hnew => by
    rw [namesOfAll_cons, List.forall_mem_append] at hnew
    have hfirst := Unfolds.depth_add_length_le h.1 hnodup hlt hnew.1
    have hrest := UnfoldsAll.depthAll_add_length_le h.2 hnodup hlt hnew.2
    rw [depthAll]
    omega

end

/-- No way down leads through more nodes than there are. -/
theorem Unfolds.depth_le (h : Unfolds s t) : t.depth ≤ s.levels := by
  have hle := h.depth_add_length_le List.nodup_nil (by simp) (by simp)
  rw [levels]
  omega

end Depth

section Standing

/-- The label of a node. -/
def labelOf (s : Store) : Item → Item
  | .node id => ((s.cells[id]?).join.map Cell.label).getD .nothing
  | a => a

mutual

/-- The tree that a tree of items stands for: each node has its label. -/
def standing (s : Store) : Tree Item → Tree Item
  | .leaf a => .leaf a
  | .node a children => .node (s.labelOf a) (standingAll s children)

/-- The trees that a sequence of trees of items stands for. -/
def standingAll (s : Store) : List (Tree Item) → List (Tree Item)
  | [] => []
  | t :: ts => standing s t :: standingAll s ts

end

/-- The label of a node is the one that it holds. -/
theorem labelOf_of_cell {items : List Item} (h : s.cell id = .ok ⟨label, items⟩) :
    s.labelOf (.node id) = label := by
  rw [labelOf, cell_eq_ok_iff.mp h]
  rfl

mutual

/-- An item is found to stand for its tree in as many steps as there are nodes on a way down. -/
theorem Unfolds.viewWithin : {t : Tree Item} → Unfolds s t → {steps : Nat} → t.depth ≤ steps →
    s.viewWithin steps t.caption = .ok (s.standing t)
  | .leaf a, h, steps, _ => viewWithin_of_ne h
  | .node a children, h, steps, hsteps => by
    obtain ⟨⟨id, label, rfl, hcell⟩, hall⟩ := h
    rw [depth] at hsteps
    obtain ⟨steps, rfl⟩ : ∃ n, steps = n + 1 := ⟨steps - 1, by omega⟩
    refine bind_eq_ok_iff.mpr ⟨_, hcell, bind_eq_ok_iff.mpr ⟨standingAll s children, ?_, ?_⟩⟩
    · exact UnfoldsAll.mapM_viewWithin hall (by omega)
    · rw [standing, labelOf_of_cell hcell]
      rfl

/-- Items are found to stand for their trees in as many steps as there are nodes on a way down. -/
theorem UnfoldsAll.mapM_viewWithin : {ts : List (Tree Item)} → UnfoldsAll s ts → {steps : Nat} →
    depthAll ts ≤ steps → (ts.map caption).mapM (s.viewWithin steps) = .ok (standingAll s ts)
  | [], _, steps, _ => rfl
  | t :: ts, h, steps, hsteps => by
    rw [depthAll] at hsteps
    rw [List.map_cons, List.mapM_cons, Unfolds.viewWithin h.1 (by omega),
      UnfoldsAll.mapM_viewWithin h.2 (by omega)]
    rfl

end

/-- An item that unfolds into a tree stands for it. -/
theorem Unfolds.view (h : Unfolds s t) : s.view t.caption = .ok (s.standing t) :=
  h.viewWithin h.depth_le

/-- An item stands for a tree exactly if it unfolds into one that stands for it. -/
theorem view_eq_ok_iff {v : Tree Item} :
    s.view a = .ok v ↔ ∃ t, Unfolds s t ∧ t.caption = a ∧ s.standing t = v := by
  constructor
  · intro h
    obtain ⟨t, ht, rfl, -⟩ := exists_unfolds h
    exact ⟨t, ht, rfl, Except.ok.inj (ht.view.symm.trans h)⟩
  · rintro ⟨t, ht, rfl, rfl⟩
    exact ht.view

mutual

/-- What is visited of a tree that stands for another is what the visited trees stand for. -/
theorem visits_standing : (t : Tree Item) →
    (s.standing t).visits order = (t.visits order).map s.standing
  | .leaf _ => rfl
  | .node a children => by
    have hbelow := visitsAll_standingAll children
    have hroot : ∀ c : Prop, [Decidable c] →
        (if c then [s.standing (.node a children)] else []) =
          (if c then [Tree.node a children] else []).map s.standing := by
      intro c _
      split <;> rfl
    rw [standing] at hroot
    simp only [standing, visits, List.map_append, hbelow, hroot]

/-- What is visited of trees that stand for others is what the visited trees stand for. -/
theorem visitsAll_standingAll : (ts : List (Tree Item)) →
    visitsAll order (standingAll s ts) = (visitsAll order ts).map s.standing
  | [] => rfl
  | t :: ts => by
    rw [standingAll, visitsAll, visitsAll, List.map_append, visits_standing t,
      visitsAll_standingAll ts]

end

mutual

/-- A tree of items has the shape of what it stands for. -/
theorem shape_standing : (t : Tree Item) → shape (s.standing t) = shape t
  | .leaf _ => by rw [standing]
  | .node a children => by
    have hbelow := map_shape_standingAll children
    rw [standing, shape, shape, Tree.map, Tree.map, mapAll_eq_map, mapAll_eq_map]
    exact congrArg (Tree.node ()) hbelow

/-- Trees of items have the shapes of what they stand for. -/
theorem map_shape_standingAll : (ts : List (Tree Item)) →
    (standingAll s ts).map shape = ts.map shape
  | [] => rfl
  | t :: ts => by
    rw [standingAll, List.map_cons, List.map_cons, shape_standing t, map_shape_standingAll ts]

end

/-- A tree of items has the positions of what it stands for. -/
theorem positions_standing (t : Tree Item) : (s.standing t).positions order = t.positions order :=
  positions_of_shape (shape_standing t) order

end Standing

section Agreement

variable {s' : Store}

mutual

/-- A tree of items unfolds into the same in a store in which its nodes hold the same. -/
theorem Unfolds.of_cells_eq : {t : Tree Item} → Unfolds s t →
    (∀ m ∈ namesOf t, s'.cells[m]? = s.cells[m]?) → Unfolds s' t ∧ s'.standing t = s.standing t
  | .leaf a, h, _ => ⟨h, rfl⟩
  | .node a children, h, hcells => by
    obtain ⟨⟨id, label, rfl, hcell⟩, hall⟩ := h
    rw [namesOf_node, List.forall_mem_cons] at hcells
    have hcell' : s'.cell id = .ok ⟨label, children.map caption⟩ := by
      rwa [cell_eq_ok_iff, hcells.1, ← cell_eq_ok_iff]
    obtain ⟨hbelow, hstanding⟩ := UnfoldsAll.of_cells_eq hall hcells.2
    refine ⟨⟨⟨id, label, rfl, hcell'⟩, hbelow⟩, ?_⟩
    rw [standing, standing, hstanding, labelOf_of_cell hcell, labelOf_of_cell hcell']

/-- Trees of items stand for the same in a store that agrees on their nodes. -/
theorem UnfoldsAll.of_cells_eq : {ts : List (Tree Item)} → UnfoldsAll s ts →
    (∀ m ∈ namesOfAll ts, s'.cells[m]? = s.cells[m]?) →
    UnfoldsAll s' ts ∧ standingAll s' ts = standingAll s ts
  | [], _, _ => ⟨trivial, rfl⟩
  | t :: ts, h, hcells => by
    rw [namesOfAll_cons, List.forall_mem_append] at hcells
    obtain ⟨hfirst, hstanding⟩ := Unfolds.of_cells_eq h.1 hcells.1
    obtain ⟨hrest, hstandings⟩ := UnfoldsAll.of_cells_eq h.2 hcells.2
    exact ⟨⟨hfirst, hrest⟩, by rw [standingAll, standingAll, hstanding, hstandings]⟩

end

end Agreement

/-- What is found at the positions of a tree are its items. -/
theorem Unfolds.mapM_lookUp (h : Unfolds s t) (hid : t.caption = .node id) (order : Order) :
    (t.positions order).mapM (fun path => s.lookUp id (positionOf path)) =
      .ok ((t.visits order).map caption) := by
  have hstanding := map_get?_positions order t
  rw [← List.forall₂_eq_eq_eq, List.forall₂_map_left_iff, List.forall₂_map_right_iff] at hstanding
  rw [mapM_eq_ok_iff, List.forall₂_map_right_iff]
  exact hstanding.imp fun path u hu => h.lookUp hid hu

end Store

end PhraseStructure
