import Mathlib.Data.List.Count
import PhraseStructure.Proofs.Tree.Visiting

/-!
# The positions of a tree

The traversals with an agenda visit the trees that stand at the positions, in the order of these
(`preorder_eq_visits`, `leaves_eq_visits`). Listed with each node before what is below it, the
positions increase in lexicographic order (`pairwise_lex_positions`). Listed with each node on both
sides, the position of a node stands around those of its descendants, and nowhere else
(`encloses_positions`).
-/

namespace PhraseStructure.Tree

variable {α : Type} {order : Order} {label word : α} {t u : Tree α}
  {ts children : List (Tree α)} {path q : List Nat} {i j : Nat}

section Traversals

/-- Trees are visited one after the other. -/
theorem visitsAll_eq_flatMap (order : Order) (ts : List (Tree α)) :
    visitsAll order ts = ts.flatMap (visits order) := by
  induction ts with
  | nil => rfl
  | cons t ts ih => rw [visitsAll, ih, List.flatMap_cons]

/-- The first trees are visited before the others. -/
theorem visitsAll_append (order : Order) (ts us : List (Tree α)) :
    visitsAll order (ts ++ us) = visitsAll order ts ++ visitsAll order us := by
  simp only [visitsAll_eq_flatMap, List.flatMap_append]

/-- The agenda holds the trees that are still to be visited, in order. -/
theorem preorderFrom_eq_visitsAll (agenda : List (Tree α)) :
    preorderFrom agenda = visitsAll .before agenda := by
  induction agenda using preorderFrom.induct with
  | case1 => rw [preorderFrom, visitsAll]
  | case2 word rest ih => rw [preorderFrom, ih, visitsAll, visits, List.singleton_append]
  | case3 label children rest ih =>
    rw [preorderFrom, ih, visitsAll_append, visitsAll, visits]
    simp

/-- The traversal with an agenda visits each tree before those under it. -/
theorem preorder_eq_visits (t : Tree α) : t.preorder = t.visits .before := by
  rw [preorder, preorderFrom_eq_visitsAll, visitsAll, visitsAll, List.append_nil]

mutual

/-- Without the nodes, the leaves are left in the same order. -/
theorem visits_leavesOnly : (t : Tree α) →
    t.visits .leavesOnly = (t.visits .before).filter (!·.isNode)
  | leaf _ => rfl
  | node label children => by
    have hbelow := visitsAll_leavesOnly children
    simp [visits, hbelow, isNode]

/-- Without the nodes, the leaves are left in the same order. -/
theorem visitsAll_leavesOnly : (ts : List (Tree α)) →
    visitsAll .leavesOnly ts = (visitsAll .before ts).filter (!·.isNode)
  | [] => rfl
  | t :: ts => by
    rw [visitsAll, visitsAll, List.filter_append, visits_leavesOnly t, visitsAll_leavesOnly ts]

end

mutual

/-- A node is visited once whether that is before what is under it or after it. -/
theorem visits_after_perm : (t : Tree α) → (t.visits .after).Perm (t.visits .before)
  | leaf _ => .refl _
  | node label children => by
    have hbelow := visitsAll_after_perm children
    simpa [visits] using (List.perm_append_singleton _ _).trans (hbelow.cons _)

/-- A node is visited once whether that is before what is under it or after it. -/
theorem visitsAll_after_perm : (ts : List (Tree α)) →
    (visitsAll .after ts).Perm (visitsAll .before ts)
  | [] => .refl _
  | t :: ts => (visits_after_perm t).append (visitsAll_after_perm ts)

end

/-- The leaves are those that are visited, from left to right. -/
theorem leaves_eq_visits (t : Tree α) : t.leaves = (t.visits .leavesOnly).map caption := by
  rw [leaves, preorder_eq_visits, visits_leavesOnly]
  induction t.visits .before with
  | nil => rfl
  | cons u us ih => cases u <;> simp [isNode, caption, ih]

end Traversals

section Occurring

/-- A position below a sequence of trees begins with the place of one of them. -/
theorem mem_positionsAll_iff : path ∈ positionsAll order i ts ↔
    ∃ j t q, ts[j]? = some t ∧ q ∈ t.positions order ∧ path = (i + j) :: q := by
  induction ts generalizing i with
  | nil => simp [positionsAll]
  | cons t ts ih =>
    rw [positionsAll, List.mem_append, ih, List.mem_map]
    constructor
    · rintro (⟨q, hq, rfl⟩ | ⟨j, u, q, hu, hq, rfl⟩)
      · exact ⟨0, t, q, rfl, hq, rfl⟩
      · exact ⟨j + 1, u, q, hu, hq, by rw [Nat.add_right_comm, Nat.add_assoc]⟩
    · rintro ⟨j, u, q, hu, hq, rfl⟩
      cases j with
      | zero =>
        obtain rfl : t = u := by simpa using hu
        exact .inl ⟨q, hq, rfl⟩
      | succ j => exact .inr ⟨j, u, q, hu, hq, by rw [Nat.add_right_comm, Nat.add_assoc]⟩

/-- The positions that are listed, with the nodes, are those where something stands. -/
theorem mem_positions_iff (horder : order = .before ∨ order = .both) :
    path ∈ t.positions order ↔ (t.get? path).isSome := by
  induction path generalizing t with
  | nil =>
    cases t with
    | leaf word => simp [positions, get?]
    | node label children => simp [positions, get?, horder]
  | cons i path ih =>
    cases t with
    | leaf word => simp [positions, get?, Tree.children]
    | node label children =>
      rw [get?_node_cons, positions]
      simp only [List.mem_append, mem_positionsAll_iff, Nat.zero_add, List.cons.injEq]
      have hroot : ∀ c : Prop, [Decidable c] → i :: path ∉ (if c then [[]] else []) := by
        intro c _
        split <;> simp
      constructor
      · rintro ((h | ⟨j, u, q, hu, hq, rfl, rfl⟩) | h)
        · exact absurd h (hroot _)
        · rwa [hu, Option.bind_some, ← ih]
        · exact absurd h (hroot _)
      · intro h
        cases hu : children[i]? with
        | none => simp [hu] at h
        | some u =>
          rw [hu, Option.bind_some, ← ih] at h
          exact .inl (.inr ⟨i, u, path, hu, h, rfl, rfl⟩)

/-- What stands somewhere in the tree is visited. -/
theorem mem_visits_of_get? (h : t.get? path = some u) : u ∈ t.visits .before := by
  have hpath : path ∈ t.positions .before := (mem_positions_iff (.inl rfl)).mpr (by rw [h]; rfl)
  have hmem := List.mem_map_of_mem (f := t.get?) hpath
  rw [map_get?_positions, h] at hmem
  simpa using hmem

/-- What is visited below a position is visited in the tree. -/
theorem visits_subset_of_get? (h : t.get? path = some u) : u.visits .before ⊆ t.visits .before := by
  induction path generalizing t with
  | nil =>
    obtain rfl : t = u := by simpa [get?] using h
    exact List.Subset.refl _
  | cons j path ih =>
    cases t with
    | leaf word => simp [get?, Tree.children] at h
    | node label children =>
      rw [get?_node_cons] at h
      obtain ⟨child, hchild, h⟩ := Option.bind_eq_some_iff.mp h
      intro v hv
      have hbelow : v ∈ visitsAll .before children := by
        rw [visitsAll_eq_flatMap]
        exact List.mem_flatMap.mpr ⟨child, List.mem_of_getElem? hchild, ih h hv⟩
      simp [visits, hbelow]

end Occurring

section Ordering

mutual

/-- A node stands before what is below it, and what is below one child before what is below the
next. -/
theorem pairwise_lex_positions : (t : Tree α) → (t.positions .before).Pairwise (List.Lex (· < ·))
  | leaf _ => List.pairwise_singleton _ _
  | node label children => by
    have hbelow := pairwise_lex_positionsAll 0 children
    have hroot : ∀ q ∈ positionsAll .before 0 children, List.Lex (· < ·) [] q := by
      intro q hq
      obtain ⟨j, t, q, -, -, rfl⟩ := mem_positionsAll_iff.mp hq
      exact .nil
    simpa [positions] using ⟨hroot, hbelow⟩

/-- The positions in a sequence of trees increase. -/
theorem pairwise_lex_positionsAll (i : Nat) : (ts : List (Tree α)) →
    (positionsAll .before i ts).Pairwise (List.Lex (· < ·))
  | [] => .nil
  | t :: ts => by
    rw [positionsAll, List.pairwise_append, List.pairwise_map]
    refine ⟨(pairwise_lex_positions t).imp List.Lex.cons, pairwise_lex_positionsAll (i + 1) ts, ?_⟩
    intro p hp q hq
    obtain ⟨p, -, rfl⟩ := List.mem_map.mp hp
    obtain ⟨j, u, q, -, -, rfl⟩ := mem_positionsAll_iff.mp hq
    exact List.Lex.rel (by omega)

end

/-- No position is listed twice. -/
theorem nodup_positions (t : Tree α) : (t.positions .before).Nodup := by
  refine (pairwise_lex_positions t).imp ?_
  rintro p _ h rfl
  exact List.lt_irrefl p h

end Ordering

section Enclosing

/-- Among positions, one stands twice, around those that lie below it. -/
def Encloses (path : List Nat) (ps : List (List Nat)) : Prop :=
  ∃ front inside back, ps = front ++ path :: (inside ++ path :: back) ∧
    (∀ q ∈ inside, path <+: q ∧ q ≠ path) ∧ ∀ q ∈ front ++ back, ¬path <+: q

/-- A position that stands around others stands there twice. -/
theorem Encloses.count_eq_two {ps : List (List Nat)} (h : Encloses path ps) :
    ps.count path = 2 := by
  obtain ⟨front, inside, back, rfl, hinside, houtside⟩ := h
  have hfront : front.count path = 0 :=
    List.count_eq_zero.mpr fun hmem => houtside path (List.mem_append_left _ hmem) List.prefix_rfl
  have hback : back.count path = 0 :=
    List.count_eq_zero.mpr fun hmem => houtside path (List.mem_append_right _ hmem) List.prefix_rfl
  have hbetween : inside.count path = 0 :=
    List.count_eq_zero.mpr fun hmem => (hinside path hmem).2 rfl
  simp [List.count_append, hfront, hback, hbetween]

/-- The positions below one of several trees stand together, and no others begin with its place. -/
theorem exists_positionsAll_eq (order : Order) (hu : ts[j]? = some u) :
    ∃ front back, positionsAll order i ts =
        front ++ (u.positions order).map ((i + j) :: ·) ++ back ∧
      ∀ q ∈ front ++ back, ∀ p, ¬(i + j) :: p <+: q := by
  induction ts generalizing i j with
  | nil => simp at hu
  | cons t ts ih =>
    cases j with
    | zero =>
      obtain rfl : t = u := by simpa using hu
      refine ⟨[], positionsAll order (i + 1) ts, rfl, fun q hq p hbegins => ?_⟩
      obtain ⟨k, _, q, -, -, rfl⟩ := mem_positionsAll_iff.mp hq
      obtain ⟨hplace, -⟩ := List.cons_prefix_cons.mp hbegins
      omega
    | succ j =>
      obtain ⟨front, back, hsplit, hother⟩ := ih (i := i + 1) (j := j) hu
      have hplace : i + 1 + j = i + (j + 1) := by omega
      rw [hplace] at hsplit hother
      refine ⟨(t.positions order).map (i :: ·) ++ front, back, ?_, fun q hq p hbegins => ?_⟩
      · rw [positionsAll, hsplit]
        simp only [List.append_assoc]
      · rw [List.append_assoc, List.mem_append] at hq
        rcases hq with hfirst | hrest
        · obtain ⟨q, -, rfl⟩ := List.mem_map.mp hfirst
          obtain ⟨hplace, -⟩ := List.cons_prefix_cons.mp hbegins
          omega
        · exact hother q hrest p hbegins

/-- What holds of a position among those of a child holds of it among those of the node. -/
theorem Encloses.cons (h : Encloses path (u.positions .both)) (hu : children[j]? = some u) :
    Encloses (j :: path) ((node label children).positions .both) := by
  obtain ⟨front, inside, back, hsplit, hinside, houtside⟩ := h
  obtain ⟨before, after, hall, hother⟩ := exists_positionsAll_eq (i := 0) .both hu
  rw [Nat.zero_add] at hall hother
  refine ⟨[] :: (before ++ front.map (j :: ·)), inside.map (j :: ·),
    back.map (j :: ·) ++ after ++ [[]], ?_, ?_, ?_⟩
  · simp [positions, hall, hsplit]
  · rw [List.forall_mem_map]
    intro q hq
    obtain ⟨hbegins, hne⟩ := hinside q hq
    exact ⟨List.cons_prefix_cons.mpr ⟨rfl, hbegins⟩, fun heq => hne (List.cons.inj heq).2⟩
  · intro q hq hbegins
    simp only [List.cons_append, List.mem_cons, List.mem_append, List.mem_map, List.append_assoc,
      List.not_mem_nil, or_false] at hq
    rcases hq with rfl | hmem | ⟨q, hq, rfl⟩ | ⟨q, hq, rfl⟩ | hmem | rfl
    · exact absurd hbegins (by simp)
    · exact hother q (List.mem_append_left _ hmem) path hbegins
    · exact houtside q (List.mem_append_left _ hq) (List.cons_prefix_cons.mp hbegins).2
    · exact houtside q (List.mem_append_right _ hq) (List.cons_prefix_cons.mp hbegins).2
    · exact hother q (List.mem_append_right _ hmem) path hbegins
    · exact absurd hbegins (by simp)

/-- The position of a node stands around those below it. -/
theorem encloses_positions (h : t.get? path = some (node label children)) :
    Encloses path (t.positions .both) := by
  induction path generalizing t with
  | nil =>
    obtain rfl : t = node label children := by simpa [get?] using h
    refine ⟨[], positionsAll .both 0 children, [], by simp [positions], fun q hq => ?_, by simp⟩
    obtain ⟨j, u, q, -, -, rfl⟩ := mem_positionsAll_iff.mp hq
    exact ⟨List.nil_prefix, List.cons_ne_nil _ _⟩
  | cons j path ih =>
    cases t with
    | leaf word => simp [get?, Tree.children] at h
    | node label' children' =>
      rw [get?_node_cons] at h
      obtain ⟨u, hu, h⟩ := Option.bind_eq_some_iff.mp h
      exact (ih h).cons hu

/-- A position below a child is listed as often as below the child alone. -/
theorem count_positions_cons (hu : children[j]? = some u) :
    ((node label children).positions .both).count (j :: path) =
      (u.positions .both).count path := by
  obtain ⟨front, back, hall, hother⟩ := exists_positionsAll_eq (i := 0) .both hu
  rw [Nat.zero_add] at hall hother
  have hnone : ∀ ps ⊆ front ++ back, ps.count (j :: path) = 0 := fun ps hsub =>
    List.count_eq_zero.mpr fun hmem => hother _ (hsub hmem) path List.prefix_rfl
  have hinjective : Function.Injective (j :: · : List Nat → List Nat) :=
    fun p q heq => (List.cons.inj heq).2
  simp [positions, hall, List.count_append, hnone front (List.subset_append_left _ _),
    hnone back (List.subset_append_right _ _), List.count_map_of_injective _ _ hinjective]

/-- The position of a leaf stands once. -/
theorem count_positions_leaf (h : t.get? path = some (leaf word)) :
    (t.positions .both).count path = 1 := by
  induction path generalizing t with
  | nil =>
    obtain rfl : t = leaf word := by simpa [get?] using h
    rfl
  | cons j path ih =>
    cases t with
    | leaf word' => simp [get?, Tree.children] at h
    | node label children =>
      rw [get?_node_cons] at h
      obtain ⟨u, hu, h⟩ := Option.bind_eq_some_iff.mp h
      rw [count_positions_cons hu, ih h]

end Enclosing

end PhraseStructure.Tree
