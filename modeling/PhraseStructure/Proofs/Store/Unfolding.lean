import PhraseStructure.Proofs.Outcome
import PhraseStructure.Proofs.Tree.Visiting
import PhraseStructure.Store.Place

/-!
# Stores unfolded into trees

Nodes of a store may be shared, so that one node stands at several positions. Unfolded, a store
gives a tree of items in which an item stands as often as it is reached (`Unfolds`). There is such a
tree for every item that stands for a tree at all, and it has the same positions (`exists_unfolds`);
at its positions stands what is looked up there (`Unfolds.lookUp`). It is determined by its item
(`Unfolds.unique`), so that no item stands below itself (`Unfolds.caption_ne`).
-/

namespace PhraseStructure.Store

open PhraseStructure.Tree

variable {s : Store} {t u v : Tree Item} {a : Item} {children ts us : List (Tree Item)} {id : Nat}

mutual

/-- Each item stands over the items directly under it. What is no node stands over nothing. -/
def Unfolds (s : Store) : Tree Item → Prop
  | .leaf a => ∀ id, a ≠ .node id
  | .node a children => (∃ id label, a = .node id ∧ s.cell id = .ok ⟨label, children.map caption⟩) ∧
      UnfoldsAll s children

/-- A sequence of trees in which each item stands over the items directly under it. -/
def UnfoldsAll (s : Store) : List (Tree Item) → Prop
  | [] => True
  | t :: ts => Unfolds s t ∧ UnfoldsAll s ts

end

/-- A node holds something if it is there and not blank. -/
theorem cell_eq_ok_iff {cell : Cell} : s.cell id = .ok cell ↔ s.cells[id]? = some (some cell) := by
  unfold Store.cell
  split
  · next found hfound => rw [hfound, Except.ok.injEq, Option.some.injEq, Option.some.injEq]
  · next hnone => exact iff_of_false (by simp) fun h => hnone cell h

/-- Each item in several trees stands over those under it if that is so in each of them. -/
theorem unfoldsAll_iff : UnfoldsAll s ts ↔ ∀ t ∈ ts, Unfolds s t := by
  induction ts with
  | nil => simp [UnfoldsAll]
  | cons t ts ih => rw [UnfoldsAll, ih, List.forall_mem_cons]

/-- The items under an item are those that it stands over. -/
theorem Unfolds.childrenUnder (h : Unfolds s t) :
    s.childrenUnder t.caption = t.children.map caption := by
  cases t with
  | leaf a =>
    cases a with
    | node id => exact absurd rfl (h id)
    | _ => rfl
  | node a children =>
    obtain ⟨⟨id, label, rfl, hcell⟩, -⟩ := h
    rw [caption, Store.childrenUnder, cell_eq_ok_iff.mp hcell]
    rfl

section Uniqueness

mutual

/-- An item unfolds into one tree only. -/
theorem Unfolds.unique : {t u : Tree Item} → Unfolds s t → Unfolds s u → t.caption = u.caption →
    t = u
  | .leaf a, .leaf b, _, _, hcaption => by rw [show a = b from hcaption]
  | .leaf a, .node b us, ht, hu, hcaption => by
    obtain ⟨⟨id, -, rfl, -⟩, -⟩ := hu
    exact absurd hcaption (ht id)
  | .node a ts, .leaf b, ht, hu, hcaption => by
    obtain ⟨⟨id, -, rfl, -⟩, -⟩ := ht
    exact absurd hcaption.symm (hu id)
  | .node a ts, .node b us, ht, hu, hcaption => by
    obtain rfl : a = b := hcaption
    have hunder := ht.childrenUnder.symm.trans hu.childrenUnder
    rw [UnfoldsAll.unique ht.2 hu.2 hunder]

/-- The items on top determine the trees that they unfold to. -/
theorem UnfoldsAll.unique : {ts us : List (Tree Item)} → UnfoldsAll s ts → UnfoldsAll s us →
    ts.map caption = us.map caption → ts = us
  | [], [], _, _, _ => rfl
  | [], _ :: _, _, _, hcaptions => by simp at hcaptions
  | _ :: _, [], _, _, hcaptions => by simp at hcaptions
  | t :: ts, u :: us, ht, hu, hcaptions => by
    obtain ⟨hfirst, hrest⟩ := List.cons.inj hcaptions
    rw [Unfolds.unique ht.1 hu.1 hfirst, UnfoldsAll.unique ht.2 hu.2 hrest]

end

mutual

/-- What is visited in an unfolded store is unfolded itself. -/
theorem Unfolds.of_mem_visits {order : Order} : {t : Tree Item} → Unfolds s t →
    u ∈ t.visits order → Unfolds s u
  | .leaf a, ht, hu => by rwa [List.mem_singleton.mp hu]
  | .node a children, ht, hu => by
    rcases eq_or_mem_of_mem_visits hu with rfl | hbelow
    · exact ht
    · exact UnfoldsAll.of_mem_visitsAll ht.2 hbelow

/-- What is visited of several trees unfolds as they do. -/
theorem UnfoldsAll.of_mem_visitsAll {order : Order} : {ts : List (Tree Item)} → UnfoldsAll s ts →
    u ∈ visitsAll order ts → Unfolds s u
  | t :: ts, ht, hu => by
    rcases List.mem_append.mp hu with hfirst | hrest
    · exact Unfolds.of_mem_visits ht.1 hfirst
    · exact UnfoldsAll.of_mem_visitsAll ht.2 hrest

end

/-- No item stands below itself: it would unfold into a smaller tree there. -/
theorem Unfolds.caption_ne {order : Order} (h : Unfolds s (.node a children))
    (hu : u ∈ visitsAll order children) : u.caption ≠ a := by
  intro hcaption
  have hsame := Unfolds.unique (h.2.of_mem_visitsAll hu) h hcaption
  have hle := size_le_of_mem_visitsAll children hu
  rw [hsame, size] at hle
  omega

end Uniqueness

section Existence

/-- The shape of a tree, in which words and labels are left out. -/
def shape (t : Tree Item) : Tree Unit := t.map fun _ => ()

/-- Items that stand for trees unfold into trees of the same shapes. -/
theorem exists_unfoldsAll {steps : Nat} {items : List Item} {vs : List (Tree Item)}
    (hone : ∀ a v, s.viewWithin steps a = .ok v →
      ∃ t, Unfolds s t ∧ t.caption = a ∧ shape t = shape v)
    (h : items.mapM (s.viewWithin steps) = .ok vs) :
    ∃ ts, UnfoldsAll s ts ∧ ts.map caption = items ∧ ts.map shape = vs.map shape := by
  have hviews := mapM_eq_ok_iff.mp h
  clear h
  induction hviews with
  | nil => exact ⟨[], trivial, rfl, rfl⟩
  | @cons a v items vs hv _ ih =>
    obtain ⟨t, ht, hcaption, hshape⟩ := hone a v hv
    obtain ⟨ts, hts, hcaptions, hshapes⟩ := ih
    exact ⟨t :: ts, ⟨ht, hts⟩, by rw [List.map_cons, hcaption, hcaptions],
      by rw [List.map_cons, List.map_cons, hshape, hshapes]⟩

/-- What is no node stands for a leaf. -/
theorem viewWithin_of_ne {steps : Nat} (hleaf : ∀ id, a ≠ .node id) :
    s.viewWithin steps a = .ok (.leaf a) := by
  cases a with
  | node id => exact absurd rfl (hleaf id)
  | _ => cases steps <;> rfl

/-- An item that stands for a tree unfolds into a tree of the same shape. -/
theorem exists_unfolds {steps : Nat} (h : s.viewWithin steps a = .ok v) :
    ∃ t, Unfolds s t ∧ t.caption = a ∧ shape t = shape v := by
  induction steps generalizing a v with
  | zero =>
    have hleaf : ∀ id, a ≠ .node id := by
      rintro id rfl
      cases h
    cases (viewWithin_of_ne hleaf).symm.trans h
    exact ⟨.leaf a, hleaf, rfl, rfl⟩
  | succ steps ih =>
    by_cases hnode : ∃ id, a = .node id
    · obtain ⟨id, rfl⟩ := hnode
      obtain ⟨⟨label, items⟩, hcell, hv⟩ := bind_eq_ok_iff.mp h
      obtain ⟨vs, hvs, heq⟩ := bind_eq_ok_iff.mp hv
      cases heq
      obtain ⟨ts, hts, rfl, hshapes⟩ := exists_unfoldsAll (fun a v => ih) hvs
      refine ⟨.node (.node id) ts, ⟨⟨id, label, rfl, hcell⟩, hts⟩, rfl, ?_⟩
      rw [shape, shape, Tree.map, Tree.map, mapAll_eq_map, mapAll_eq_map]
      exact congrArg (Tree.node ()) hshapes
    · have hleaf : ∀ id, a ≠ .node id := fun id hid => hnode ⟨id, hid⟩
      cases (viewWithin_of_ne hleaf).symm.trans h
      exact ⟨.leaf a, hleaf, rfl, rfl⟩

/-- Trees of one shape have the same positions. -/
theorem positions_of_shape (h : shape t = shape v) (order : Order) :
    t.positions order = v.positions order := by
  have hpositions := congrArg (Tree.positions order) h
  rwa [shape, shape, positions_map, positions_map] at hpositions

/-- Trees of one shape have the same size. -/
theorem size_of_shape (h : shape t = shape v) : t.size = v.size := by
  have hsize := congrArg Tree.size h
  rwa [shape, shape, size_map, size_map] at hsize

end Existence

section Positions

/-- A position as it is given: the places from the top down, in a tuple. -/
def positionOf (path : List Nat) : Datum := .tuple (path.map fun (i : Nat) => .int i)

/-- At the index of a place, there is what stands there. -/
theorem elementAt_natCast {α : Type} {xs : List α} {i : Nat} {x : α} (h : xs[i]? = some x) :
    elementAt xs (i : Int) = .ok x := by
  obtain ⟨hi, -⟩ := List.getElem?_eq_some_iff.mp h
  have hresolve : resolveIndex xs.length (i : Int) = some i := by
    rw [resolveIndex]
    simp
    omega
  rw [elementAt, hresolve]
  simp [h]

/-- At a position below a node, the item is found that stands there. -/
theorem Unfolds.descend {rest : List Datum → Datum} {path : List Nat} (h : Unfolds s t)
    (hid : t.caption = .node id) (hu : t.get? path = some u) :
    s.descend rest id (path.map fun (i : Nat) => .int i) = .ok u.caption := by
  induction path generalizing t id with
  | nil =>
    obtain rfl : t = u := by simpa [get?] using hu
    rw [hid]
    rfl
  | cons i path ih =>
    cases t with
    | leaf a => exact absurd hid (h id)
    | node a children =>
      obtain ⟨⟨id', label, rfl, hcell⟩, hall⟩ := h
      obtain rfl : id' = id := Item.node.inj hid
      rw [get?_node_cons] at hu
      obtain ⟨child, hchild, hu⟩ := Option.bind_eq_some_iff.mp hu
      have hunfolds := unfoldsAll_iff.mp hall child (List.mem_of_getElem? hchild)
      have hitems : s.children id' = .ok (children.map caption) := by
        rw [Store.children, hcell]
        rfl
      have helement : elementAt (children.map caption) (i : Int) = .ok child.caption :=
        elementAt_natCast (by rw [List.getElem?_map, hchild]; rfl)
      cases path with
      | nil =>
        obtain rfl : child = u := by simpa [get?] using hu
        rw [List.map_cons, List.map_nil, Store.descend]
        refine bind_eq_ok_iff.mpr ⟨i, rfl, bind_eq_ok_iff.mpr ⟨_, hitems, helement⟩⟩
      | cons j path =>
        -- The way goes on, so that a node stands here.
        obtain ⟨below, hbelow⟩ : ∃ below, child.caption = .node below := by
          cases child with
          | leaf b => simp [get?, Tree.children] at hu
          | node b below =>
            obtain ⟨⟨id, -, rfl, -⟩, -⟩ := hunfolds
            exact ⟨id, rfl⟩
        rw [hbelow] at helement
        rw [List.map_cons, List.map_cons, Store.descend]
        · refine bind_eq_ok_iff.mpr ⟨i, rfl, bind_eq_ok_iff.mpr ⟨_, hitems, ?_⟩⟩
          exact bind_eq_ok_iff.mpr ⟨_, helement, ih hunfolds hbelow hu⟩
        · simp

/-- At a position of a tree, the item is found that stands there. -/
theorem Unfolds.lookUp {path : List Nat} (h : Unfolds s t) (hid : t.caption = .node id)
    (hu : t.get? path = some u) : s.lookUp id (positionOf path) = .ok u.caption :=
  h.descend hid hu

end Positions

end PhraseStructure.Store
