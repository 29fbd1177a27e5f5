import PhraseStructure.Proofs.Store.Postorder
import PhraseStructure.Proofs.Store.Standing

/-!
# Traversals and positions

A node may stand at several positions of a tree. What is found at each of the positions are the
trees that the traversals visit, as often and in the same order (`traversal_laws`).
-/

namespace PhraseStructure.Store

open PhraseStructure.Tree

variable {s : Store} {t v : Tree Item} {id : Nat}

/-- The items of an unfolded tree stand for the trees below what it stands for. -/
theorem Unfolds.mapM_view (h : Unfolds s t) (order : Order) :
    ((t.visits order).map caption).mapM s.view = .ok ((s.standing t).visits order) := by
  rw [visits_standing, mapM_eq_ok_iff, List.forall₂_map_left_iff, List.forall₂_map_right_iff,
    List.forall₂_same]
  exact fun u hu => (h.of_mem_visits hu).view

/-- A leaf stands for itself. -/
theorem leaves_standing (s : Store) (t : Tree Item) :
    (s.standing t).leaves = (t.visits .leavesOnly).map caption := by
  rw [leaves_eq_visits, visits_standing, List.map_map]
  refine List.map_congr_left fun u hu => ?_
  rw [visits_leavesOnly, List.mem_filter] at hu
  cases u with
  | leaf a => rfl
  | node a children => exact absurd hu.2 Bool.false_ne_true

/-- What is found at the positions of a tree, with each node before what is below it, stands for the
trees that are visited in pre-order; what is found at the positions of the leaves are the leaves.
An agenda that keeps the nodes which satisfy a condition finds those of the trees in pre-order. The
positions increase, so that none is listed twice. With each node listed before and after what is
below it, all positions are listed: that of a leaf once, and that of a node twice, around those of
its descendants. -/
theorem traversal_laws (h : s.view (.node id) = .ok v) :
    ∃ items, (v.positions .before).mapM (fun path => s.lookUp id (positionOf path)) = .ok items ∧
      items.mapM s.view = .ok v.preorder ∧
      (v.positions .leavesOnly).mapM (fun path => s.lookUp id (positionOf path)) = .ok v.leaves ∧
      (∀ condition, v.subtrees condition = v.preorder.filter fun u => u.isNode && condition u) ∧
      (v.positions .before).Pairwise (List.Lex (· < ·)) ∧ (v.positions .before).Nodup ∧
      (∀ path, path ∈ v.positions .both ↔ (v.get? path).isSome) ∧
      ∀ path u, v.get? path = some u →
        if u.isNode then
          Encloses path (v.positions .both) ∧ (v.positions .both).count path = 2
        else (v.positions .both).count path = 1 := by
  obtain ⟨t, ht, hid, rfl⟩ := view_eq_ok_iff.mp h
  refine ⟨(t.visits .before).map caption, ?_, ?_, ?_, subtrees_eq_filter _,
    pairwise_lex_positions _, nodup_positions _, fun path => mem_positions_iff (.inr rfl),
    fun path u hu => ?_⟩
  · rw [positions_standing]
    exact ht.mapM_lookUp hid .before
  · rw [preorder_eq_visits]
    exact ht.mapM_view .before
  · rw [positions_standing, leaves_standing]
    exact ht.mapM_lookUp hid .leavesOnly
  · cases u with
    | leaf word => exact count_positions_leaf hu
    | node label children =>
      have hencloses := encloses_positions hu
      exact ⟨hencloses, hencloses.count_eq_two⟩

/-- A node over a word that stands at two positions is found, and visited, at both. -/
theorem traversal_laws_sharing :
    ∃ v, sharing.view (.node 3) = .ok v ∧
      (v.positions .before).mapM (fun path => sharing.lookUp 3 (positionOf path)) =
        .ok [.node 3, .node 1, .text "a", .node 1, .text "a"] ∧
      [Item.node 3, .node 1, .text "a", .node 1, .text "a"].mapM sharing.view = .ok v.preorder ∧
      (v.positions .leavesOnly).mapM (fun path => sharing.lookUp 3 (positionOf path)) =
        .ok v.leaves ∧
      Encloses [1] (v.positions .both) ∧ (v.positions .both).count [1, 0] = 1 := by
  let x : Tree Item := .node (.text "X") [.leaf (.text "a")]
  let v : Tree Item := .node (.text "T") [x, x]
  have hv : sharing.view (.node 3) = .ok v := rfl
  have hplaces : (v.positions .before).mapM (fun path => sharing.lookUp 3 (positionOf path)) =
      .ok [.node 3, .node 1, .text "a", .node 1, .text "a"] := rfl
  obtain ⟨items, hitems, hviews, hleaves, -, -, -, -, hcount⟩ := traversal_laws hv
  cases hplaces.symm.trans hitems
  have hnode := hcount [1] x (by simp [v, get?, Tree.children])
  have hleaf := hcount [1, 0] (.leaf (.text "a")) (by simp [v, x, get?, Tree.children])
  exact ⟨v, hv, hplaces, hviews, hleaves, hnode.1, hleaf⟩

end PhraseStructure.Store
