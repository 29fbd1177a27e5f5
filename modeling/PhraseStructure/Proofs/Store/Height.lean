import Mathlib.Order.Bounds.Defs
import PhraseStructure.Proofs.Store.Planting
import PhraseStructure.Proofs.Store.Traversal
import PhraseStructure.Store.Make

/-!
# The height of a tree

The height is found with an agenda of nodes, each with its depth. What is still to come bounds the
result, in whatever order the agenda is worked through (`heightFrom_eq_max`), so that the height is
that of the recursion over the tree (`height_eq_depth`). It is also one more than the greatest
length of a position at which a node stands, in a store whose nodes are shared as well
(`height_laws`).
-/

namespace PhraseStructure

namespace Tree

variable {α : Type} {t u : Tree α} {ts children : List (Tree α)} {label : α} {path : List Nat}

section Agenda

/-- The greatest depth of a node on an agenda or below, or zero if there is none. A leaf counts for
its own place. -/
def reach : List (Tree α × Nat) → Nat
  | [] => 0
  | (t, depth) :: rest => max (depth + (t.depth - 1)) (reach rest)

/-- The search reaches as deep as in both parts of the agenda. -/
theorem reach_append (agenda rest : List (Tree α × Nat)) :
    reach (agenda ++ rest) = max (reach agenda) (reach rest) := by
  induction agenda with
  | nil => rw [List.nil_append, reach, Nat.zero_max]
  | cons pair agenda ih => rw [List.cons_append, reach, reach, ih, Nat.max_assoc]

/-- The order of the agenda does not matter for how deep the search reaches. -/
theorem reach_reverse (agenda : List (Tree α × Nat)) : reach agenda.reverse = reach agenda := by
  induction agenda with
  | nil => rfl
  | cons pair agenda ih =>
    rw [List.reverse_cons, reach_append, ih, reach, reach, reach, Nat.max_zero, Nat.max_comm]

/-- Below the children of a node at some depth, the search reaches as deep as they are. -/
theorem max_reach_nodes (depth : Nat) (ts : List (Tree α)) :
    max depth (reach ((ts.filter isNode).map (·, depth + 1))) = depth + depthAll ts := by
  induction ts with
  | nil => exact Nat.max_zero depth
  | cons t ts ih =>
    cases t with
    | leaf word =>
      rw [List.filter_cons_of_neg (by simp [isNode]), ih, depthAll, Tree.depth, Nat.zero_max]
    | node label children =>
      rw [List.filter_cons_of_pos rfl, List.map_cons, reach, depthAll, Tree.depth]
      omega

/-- What is under a tree is one level less deep. -/
theorem depth_sub_one (t : Tree α) : t.depth - 1 = depthAll t.children := by
  cases t <;> rfl

/-- Taking a tree from the agenda, with the nodes under it in its place, changes nothing. -/
theorem max_reach_cons (greatest depth : Nat) (t : Tree α) (rest : List (Tree α × Nat)) :
    max (max greatest depth)
        (max (reach ((t.children.filter isNode).map (·, depth + 1))) (reach rest)) =
      max greatest (reach ((t, depth) :: rest)) := by
  have hbelow := max_reach_nodes depth t.children
  rw [reach, depth_sub_one]
  omega

/-- The search finds how deep it reaches, or what was found before if that is more. -/
theorem heightFrom_eq_max (greatest : Nat) (agenda : List (Tree α × Nat)) :
    heightFrom greatest agenda = max greatest (reach agenda) := by
  induction greatest, agenda using heightFrom.induct with
  | case1 greatest => rw [heightFrom, reach, Nat.max_zero]
  | case2 greatest t depth rest ih =>
    rw [heightFrom, ih, reach_append, reach_reverse, max_reach_cons]

/-- The greatest depth of a node on an agenda or below, where the first of the nodes under a tree is
gone into first. -/
def heightFromFirst (greatest : Nat) : List (Tree α × Nat) → Nat
  | [] => greatest
  | (t, depth) :: rest =>
      heightFromFirst (max greatest depth)
        ((t.children.filter isNode).map (·, depth + 1) ++ rest)
termination_by agenda => sizeAll (agenda.map Prod.fst)
decreasing_by
  have hchildren := sizeAll_children_lt t
  have hfilter := sizeAll_filter_le isNode t.children
  simp only [List.map_append, List.map_map, List.map_cons, sizeAll_append, sizeAll,
    Function.comp_def, List.map_id']
  omega

/-- In whatever order the nodes are gone into, the greatest depth is the same. -/
theorem heightFromFirst_eq (greatest : Nat) (agenda : List (Tree α × Nat)) :
    heightFromFirst greatest agenda = heightFrom greatest agenda := by
  rw [heightFrom_eq_max]
  induction greatest, agenda using heightFromFirst.induct with
  | case1 greatest => rw [heightFromFirst, reach, Nat.max_zero]
  | case2 greatest t depth rest ih => rw [heightFromFirst, ih, reach_append, max_reach_cons]

end Agenda

section Recursion

/-- The height is one more than the number of nodes on the longest way below the root. -/
theorem height_eq (t : Tree α) : t.height = 1 + depthAll t.children := by
  rw [height, heightFrom_eq_max, reach, reach, depth_sub_one]
  omega

/-- The height of a node is the number of nodes on the longest way downwards. -/
theorem height_eq_depth (ht : t.isNode = true) : t.height = t.depth := by
  cases t with
  | leaf word => cases ht
  | node label children => rw [height_eq, depth, Tree.children, Nat.add_comm]

/-- The nodes among several trees are as deep as the deepest of the trees. -/
theorem depthAll_eq_max? (ts : List (Tree α)) :
    depthAll ts = (((ts.filter isNode).map height).max?).getD 0 := by
  induction ts with
  | nil => rfl
  | cons t ts ih =>
    cases t with
    | leaf word =>
      rw [List.filter_cons_of_neg (by simp [isNode]), ← ih, depthAll, depth, Nat.zero_max]
    | node label children =>
      rw [List.filter_cons_of_pos rfl, List.map_cons, List.max?_cons, depthAll, ih,
        height_eq_depth rfl]
      cases ((ts.filter isNode).map height).max? <;> simp

/-- A node without nodes under it has height one, and any other is one higher than the highest node
under it. -/
theorem height_eq_elim (t : Tree α) :
    t.height = ((t.children.filter isNode).map height).max?.elim 1 (1 + ·) := by
  rw [height_eq, depthAll_eq_max?]
  cases ((t.children.filter isNode).map height).max? <;> rfl

end Recursion

section Positions

/-- One of several trees is as deep as the deepest. -/
theorem exists_depth_eq (h : 0 < depthAll ts) :
    ∃ (j : Nat) (u : Tree α), ts[j]? = some u ∧ u.depth = depthAll ts := by
  induction ts with
  | nil => cases h
  | cons t ts ih =>
    rw [depthAll] at h ⊢
    by_cases hle : depthAll ts ≤ t.depth
    · exact ⟨0, t, rfl, (Nat.max_eq_left hle).symm⟩
    · obtain ⟨j, u, hu, hdepth⟩ := ih (by omega)
      exact ⟨j + 1, u, hu, by omega⟩

/-- Each of several trees is at most as deep as all of them. -/
theorem depth_le_depthAll (h : u ∈ ts) : u.depth ≤ depthAll ts := by
  induction ts with
  | nil => cases h
  | cons t ts ih =>
    rw [depthAll]
    rcases List.mem_cons.mp h with rfl | hrest
    · exact Nat.le_max_left _ _
    · exact (ih hrest).trans (Nat.le_max_right _ _)

/-- A tree has a level if it is a node. -/
theorem depth_pos_iff : 0 < t.depth ↔ t.isNode = true := by
  cases t <;> simp [depth, isNode]

/-- No node stands deeper than the tree is. -/
theorem length_add_depth_le (h : t.get? path = some u) : path.length + u.depth ≤ t.depth := by
  induction path generalizing t with
  | nil =>
    obtain rfl : t = u := by simpa [get?] using h
    simp
  | cons i path ih =>
    cases t with
    | leaf word => simp [get?, Tree.children] at h
    | node label children =>
      rw [get?_node_cons] at h
      obtain ⟨child, hchild, h⟩ := Option.bind_eq_some_iff.mp h
      have hbelow := ih h
      have hdepth := depth_le_depthAll (List.mem_of_getElem? hchild)
      rw [List.length_cons, depth]
      omega

/-- At the end of a longest way downwards stands a node. -/
theorem exists_deepest (ht : t.isNode = true) :
    ∃ path u, t.get? path = some u ∧ u.isNode = true ∧ path.length + 1 = t.depth := by
  induction hn : t.depth generalizing t with
  | zero => exact absurd hn (depth_pos_iff.mpr ht).ne'
  | succ n ih =>
    cases t with
    | leaf word => cases ht
    | node label children =>
      rw [depth, Nat.succ_inj] at hn
      subst hn
      by_cases hzero : depthAll children = 0
      · exact ⟨[], _, by rw [get?], rfl, by rw [hzero, List.length_nil]⟩
      · obtain ⟨j, child, hchild, hdepth⟩ := exists_depth_eq (Nat.pos_of_ne_zero hzero)
        have hnode : child.isNode = true := depth_pos_iff.mp (by omega)
        obtain ⟨path, u, hu, hinner, hlength⟩ := ih hnode hdepth
        refine ⟨j :: path, u, ?_, hinner, by rw [List.length_cons, hlength]⟩
        rw [get?_node_cons, hchild, Option.bind_some, hu]

end Positions

/-- The leaves directly under a node are its leaves. -/
theorem leaves_node_leaf (label : α) (words : List α) :
    (node label (words.map leaf)).leaves = words := by
  have hbelow : (visitsAll .leavesOnly (words.map leaf)).map caption = words := by
    induction words with
    | nil => rfl
    | cons word words ih => simpa [visitsAll, visits, caption] using ih
  rw [leaves_eq_visits, visits]
  simpa using hbelow

/-- The flattened tree has the leaves of the tree directly under its root. -/
theorem leaves_flatten (t : Tree α) : t.flatten.leaves = t.leaves := leaves_node_leaf _ _

/-- A flattened tree has no node but its root. -/
theorem height_flatten (t : Tree α) : t.flatten.height = 1 := by
  have hnone : (t.leaves.map leaf).filter isNode = [] := by simp [isNode]
  rw [height_eq_elim, flatten, Tree.children, hnone]
  rfl

end Tree

namespace Store

open PhraseStructure.Tree

variable {s : Store} {t v : Tree Item} {ts : List (Tree Item)} {id : Nat}

mutual

/-- A tree of items is as deep as what it stands for. -/
theorem depth_standing : (t : Tree Item) → (s.standing t).depth = t.depth
  | .leaf _ => rfl
  | .node a children => by rw [standing, depth, depth, depthAll_standingAll children]

/-- Trees of items are as deep as what they stand for. -/
theorem depthAll_standingAll : (ts : List (Tree Item)) →
    depthAll (standingAll s ts) = depthAll ts
  | [] => rfl
  | t :: ts => by rw [standingAll, depthAll, depthAll, depth_standing t, depthAll_standingAll ts]

end

/-- At a position below a node, a node is found exactly if one stands there. -/
theorem Unfolds.exists_lookUp_iff {path : List Nat} {u : Tree Item} (h : Unfolds s t)
    (hid : t.caption = .node id) (hu : t.get? path = some u) :
    (∃ m, s.lookUp id (positionOf path) = .ok (.node m)) ↔ u.isNode = true := by
  rw [h.lookUp hid hu]
  have hunfolds := h.of_mem_visits (mem_visits_of_get? hu)
  cases u with
  | leaf a =>
    refine iff_of_false ?_ Bool.false_ne_true
    rintro ⟨m, hm⟩
    exact hunfolds m (Except.ok.inj hm)
  | node a children =>
    obtain ⟨⟨m, -, rfl, -⟩, -⟩ := hunfolds
    exact iff_of_true ⟨m, rfl⟩ rfl

/-- The number of nodes on the longest way down from a node is one more than the greatest length of
a position where a node is found. -/
theorem Unfolds.isGreatest_depth (h : Unfolds s t) (hid : t.caption = .node id) :
    IsGreatest {n | ∃ path ∈ t.positions .before,
      (∃ m, s.lookUp id (positionOf path) = .ok (.node m)) ∧ path.length + 1 = n} t.depth := by
  have hroot : t.isNode = true := by
    cases t with
    | leaf a => exact absurd hid (h id)
    | node a children => rfl
  constructor
  · obtain ⟨path, u, hu, hnode, hlength⟩ := exists_deepest hroot
    exact ⟨path, (mem_positions_iff (.inl rfl)).mpr (by rw [hu]; rfl),
      (h.exists_lookUp_iff hid hu).mpr hnode, hlength⟩
  · rintro n ⟨path, hpath, hfound, rfl⟩
    obtain ⟨u, hu⟩ := Option.isSome_iff_exists.mp ((mem_positions_iff (.inl rfl)).mp hpath)
    have hpos := depth_pos_iff.mpr ((h.exists_lookUp_iff hid hu).mp hfound)
    have hle := length_add_depth_le hu
    omega

/-- Leaves stand for themselves. -/
theorem standingAll_map_leaf (items : List Item) :
    standingAll s (items.map .leaf) = items.map .leaf := by
  induction items with
  | nil => rfl
  | cons a items ih => rw [List.map_cons, standingAll, standing, ih]

/-- The leaves of an unfolded tree are no nodes. -/
theorem Unfolds.ne_node_of_mem_leaves (h : Unfolds s t) {a : Item}
    (ha : a ∈ (s.standing t).leaves) (m : Nat) : a ≠ .node m := by
  rw [leaves_standing] at ha
  obtain ⟨u, hu, rfl⟩ := List.mem_map.mp ha
  have hunfolds := h.of_mem_visits hu
  rw [visits_leavesOnly, List.mem_filter] at hu
  cases u with
  | leaf a => exact hunfolds m
  | node a children => exact absurd hu.2 Bool.false_ne_true

/-- A flattened tree is added, and the items under its root are the leaves of the tree. -/
theorem Unfolds.view_flatten (h : Unfolds s t) (hid : t.caption = .node id) :
    ∃ s' m, s.flatten (.node id) = .ok (s', .node m) ∧
      s'.view (.node m) = .ok (s.standing t).flatten := by
  let items := (s.standing t).leaves
  let s' := (s.addNode (s.standing t).caption items).1
  have hcell : s'.cell s.cells.size = .ok ⟨(s.standing t).caption, items⟩ := cell_addNode s _ _
  have hcaptions : (items.map .leaf).map caption = items := by
    rw [List.map_map]
    exact List.map_id _
  have hnew : Unfolds s' (.node (.node s.cells.size) (items.map .leaf)) := by
    refine ⟨⟨s.cells.size, (s.standing t).caption, rfl, by rw [hcell, hcaptions]⟩, ?_⟩
    simpa [unfoldsAll_iff, Unfolds] using fun a => h.ne_node_of_mem_leaves (a := a)
  have hview := h.view
  have hview' := hnew.view
  rw [hid] at hview
  rw [standing, labelOf_of_cell hcell, standingAll_map_leaf] at hview'
  exact ⟨s', s.cells.size, bind_eq_ok_iff.mpr ⟨_, hview, rfl⟩, hview'⟩

/-- The height that is found with an agenda is, at every node, that of the recursion: one if there
is no node under it, and otherwise one more than the greatest height of a node under it. It does not
matter which child is gone into first. The height is one more than the greatest length of a position
at which a node is found. The flattened tree has the label and the leaves of the tree, and its
height is one. Nodes may stand at several positions. -/
theorem height_laws (h : s.view (.node id) = .ok v) :
    (∀ u ∈ v.preorder, u.isNode = true →
      u.height = ((u.children.filter isNode).map height).max?.elim 1 (1 + ·)) ∧
    v.height = v.depth ∧ v.height = heightFromFirst 0 [(v, 1)] ∧
    IsGreatest {n | ∃ path ∈ v.positions .before,
      (∃ m, s.lookUp id (positionOf path) = .ok (.node m)) ∧ path.length + 1 = n} v.height ∧
    ∃ s' m f, s.flatten (.node id) = .ok (s', .node m) ∧ s'.view (.node m) = .ok f ∧
      f.caption = v.caption ∧ f.leaves = v.leaves ∧ f.height = 1 := by
  obtain ⟨t, ht, hid, rfl⟩ := view_eq_ok_iff.mp h
  have hroot : (s.standing t).isNode = true := by
    cases t with
    | leaf a => exact absurd hid (ht id)
    | node a children => rfl
  obtain ⟨s', m, hflatten, hview⟩ := ht.view_flatten hid
  refine ⟨fun u _ _ => height_eq_elim u, height_eq_depth hroot, (heightFromFirst_eq 0 _).symm, ?_,
    s', m, _, hflatten, hview, rfl, leaves_flatten _, height_flatten _⟩
  rw [height_eq_depth hroot, depth_standing, positions_standing]
  exact ht.isGreatest_depth hid

/-- A node over a word that stands at two positions below another node. -/
theorem height_laws_sharing :
    ∃ v, sharing.view (.node 3) = .ok v ∧ v.height = 2 ∧
      IsGreatest {n | ∃ path ∈ v.positions .before,
        (∃ m, sharing.lookUp 3 (positionOf path) = .ok (.node m)) ∧ path.length + 1 = n} 2 ∧
      ∃ s' m f, sharing.flatten (.node 3) = .ok (s', .node m) ∧ s'.view (.node m) = .ok f ∧
        f.caption = .text "T" ∧ f.leaves = [.text "a", .text "a"] ∧ f.height = 1 := by
  let x : Tree Item := .node (.text "X") [.leaf (.text "a")]
  let v : Tree Item := .node (.text "T") [x, x]
  have hv : sharing.view (.node 3) = .ok v := rfl
  obtain ⟨-, hdepth, -, hgreatest, s', m, f, hflatten, hview, hlabel, hleaves, hheight⟩ :=
    height_laws hv
  have htwo : v.height = 2 := hdepth
  rw [htwo] at hgreatest
  exact ⟨v, hv, htwo, hgreatest, s', m, f, hflatten, hview, hlabel, hleaves.trans (by
    simp [leaves, preorder, preorderFrom, v, x]), hheight⟩

end Store

end PhraseStructure
