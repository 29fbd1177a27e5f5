import Mathlib.Data.List.Nodup
import PhraseStructure.Proofs.Position
import PhraseStructure.Proofs.Store.Standing
import PhraseStructure.Store.Edit

/-!
# What is found below an item

A position of whole numbers leads down from an item, one number for each node on the way
(`itemAt_cons`). The way in the store is the way in the tree that the item unfolds into
(`Unfolds.exists_of_itemAt`, `Unfolds.itemAt_of_route`). Other children of one node change what is
found on the ways that lead through this node, and on no other (`Unfolds.itemAt_setChildren`,
`Unfolds.itemAt_setChildren_append`).
-/

namespace PhraseStructure

namespace Tree

variable {α : Type}

/-- The way that a position leads, with the places counted from the front. A negative number in a
position counts from behind. -/
def route? : Tree α → List Int → Option (List Nat)
  | _, [] => some []
  | t, i :: p => do
      let k ← resolveIndex t.children.length i
      let child ← t.children[k]?
      return k :: (← route? child p)

/-- A position leads to a child first, and on from there. -/
theorem route?_cons_eq_some_iff {t : Tree α} {i : Int} {p : List Int} {path : List Nat} :
    t.route? (i :: p) = some path ↔ ∃ k child rest, resolveIndex t.children.length i = some k ∧
      t.children[k]? = some child ∧ child.route? p = some rest ∧ path = k :: rest := by
  simp only [route?, Option.bind_eq_bind, Option.bind_eq_some_iff, Option.pure_def,
    Option.some.injEq]
  constructor
  · rintro ⟨k, hk, child, hchild, rest, hrest, rfl⟩
    exact ⟨k, child, rest, hk, hchild, hrest, rfl⟩
  · rintro ⟨k, child, rest, hk, hchild, hrest, rfl⟩
    exact ⟨k, hk, child, hchild, rest, hrest, rfl⟩

/-- A way goes on with the place of a child. -/
theorem route?_append {t u : Tree α} {p : List Int} {i : Int} {path : List Nat} {k : Nat}
    (hroute : t.route? p = some path) (hu : t.get? path = some u)
    (hk : resolveIndex u.children.length i = some k) :
    t.route? (p ++ [i]) = some (path ++ [k]) := by
  induction p generalizing t path with
  | nil =>
    obtain rfl : [] = path := by simpa [route?] using hroute
    obtain rfl : t = u := by simpa [get?] using hu
    have hlt := lt_of_resolveIndex hk
    exact route?_cons_eq_some_iff.mpr
      ⟨k, t.children[k], [], hk, List.getElem?_eq_getElem hlt, by rw [route?], rfl⟩
  | cons j p ih =>
    obtain ⟨l, child, rest, hl, hchild, hrest, rfl⟩ := route?_cons_eq_some_iff.mp hroute
    rw [get?, hchild] at hu
    exact route?_cons_eq_some_iff.mpr ⟨l, child, rest ++ [k], hl, hchild, ih hrest hu, rfl⟩

/-- A way that is counted from the front is the way that it names. -/
theorem eq_of_route?_natCast {t : Tree α} {p path : List Nat}
    (h : t.route? (p.map Nat.cast) = some path) : path = p := by
  induction p generalizing t path with
  | nil =>
    obtain rfl : [] = path := by simpa [route?] using h
    rfl
  | cons i p ih =>
    obtain ⟨k, child, rest, hk, -, hrest, rfl⟩ := route?_cons_eq_some_iff.mp h
    obtain ⟨-, hvalue⟩ := resolveIndex_eq_some_iff.mp hk
    rw [ih hrest, List.cons.injEq]
    exact ⟨by omega, rfl⟩

/-- The places of a tree are the way to it. -/
theorem route?_natCast {t u : Tree α} {path : List Nat} (hu : t.get? path = some u) :
    t.route? (path.map Nat.cast) = some path := by
  induction path generalizing t with
  | nil => rw [List.map_nil, route?]
  | cons k path ih =>
    rw [get?] at hu
    cases hchild : t.children[k]? with
    | none => simp [hchild] at hu
    | some child =>
      rw [hchild] at hu
      obtain ⟨hlt, -⟩ := List.getElem?_eq_some_iff.mp hchild
      exact route?_cons_eq_some_iff.mpr
        ⟨k, child, path, resolveIndex_natCast hlt, hchild, ih hu, rfl⟩

end Tree

namespace Store

open PhraseStructure.Tree

variable {s : Store} {t u : Tree Item} {cs : List (Tree Item)} {a b label : Item} {id m n : Nat}
  {items items' : List Item} {i j : Int} {p q front : List Int} {path : List Nat}

section Cells

/-- The children of a node are what it holds beside its label. -/
theorem children_eq_ok_iff :
    s.children id = .ok items ↔ ∃ label, s.cell id = .ok ⟨label, items⟩ := by
  rw [children, bind_eq_ok_iff]
  constructor
  · rintro ⟨⟨label, items⟩, hcell, ⟨⟩⟩
    exact ⟨label, hcell⟩
  · rintro ⟨label, hcell⟩
    exact ⟨_, hcell, rfl⟩

/-- A tree of items with a node at its root names a node of the store. -/
theorem Unfolds.exists_name (h : Unfolds s (.node a cs)) : ∃ id, a = .node id := by
  obtain ⟨⟨id, label, rfl, -⟩, -⟩ := h
  exact ⟨id, rfl⟩

/-- A tree of items whose root names a node is no leaf. -/
theorem Unfolds.exists_eq_node (h : Unfolds s t) (hid : t.caption = .node id) :
    ∃ cs, t = .node (.node id) cs := by
  cases t with
  | leaf b => exact absurd hid (h id)
  | node b cs => exact ⟨cs, by rw [show b = .node id from hid]⟩

/-- The children of a node are the items directly under it. -/
theorem Unfolds.children (h : Unfolds s (.node (.node id) cs)) :
    s.children id = .ok (cs.map caption) := by
  obtain ⟨⟨_, label, ⟨⟩, hcell⟩, -⟩ := h
  exact children_eq_ok_iff.mpr ⟨label, hcell⟩

/-- Another node is left as it is when a node is given other children. -/
theorem cells_setChildren_of_ne (hne : n ≠ m) :
    (s.setChildren m items).cells[n]? = s.cells[n]? := by
  rw [setChildren]
  split
  · exact Array.getElem?_setIfInBounds_ne hne.symm
  · rfl

/-- A node that is given other children keeps its label, and so does every other node. -/
theorem label_setChildren (n : Nat) :
    ((s.setChildren m items).cell n).map Cell.label = (s.cell n).map Cell.label := by
  by_cases hne : n = m
  · subst hne
    rw [setChildren]
    split
    · next held hcell =>
      obtain ⟨hlt, -⟩ := Array.getElem?_eq_some_iff.mp hcell
      simp only [cell, hcell, Array.getElem?_setIfInBounds_self, hlt, if_true]
      rfl
    · rfl
  · rw [cell, cell, cells_setChildren_of_ne hne]

/-- The lists are left as they are when a node is given other children. -/
theorem rows_setChildren : (s.setChildren m items).rows = s.rows := by
  rw [setChildren]
  split <;> rfl

/-- The tables are left as they are when a node is given other children. -/
@[simp] theorem tables_setChildren : (s.setChildren m items).tables = s.tables := by
  rw [setChildren]
  split <;> rfl

/-- The grammars are left as they are when a node is given other children. -/
theorem grammars_setChildren : (s.setChildren m items).grammars = s.grammars := by
  rw [setChildren]
  split <;> rfl

/-- Another node keeps its children when a node is given others. -/
theorem children_setChildren_of_ne (hne : n ≠ m) :
    (s.setChildren m items).children n = s.children n := by
  rw [Store.children, Store.children, cell, cell, cells_setChildren_of_ne hne]

/-- A node has the children that it was given. -/
theorem children_setChildren (h : s.children m = .ok items) :
    (s.setChildren m items').children m = .ok items' := by
  obtain ⟨label, hcell⟩ := children_eq_ok_iff.mp h
  rw [cell_eq_ok_iff] at hcell
  obtain ⟨hlt, -⟩ := Array.getElem?_eq_some_iff.mp hcell
  refine children_eq_ok_iff.mpr ⟨label, cell_eq_ok_iff.mpr ?_⟩
  rw [setChildren, hcell]
  simp [hlt]

end Cells

section Ways

/-- A position of whole numbers as it is given. -/
def signed (p : List Int) : Datum := .tuple (p.map .int)

/-- Places that are counted from the front are whole numbers. -/
theorem positionOf_eq_signed (path : List Nat) : positionOf path = signed (path.map Nat.cast) := by
  rw [positionOf, signed, List.map_map]
  rfl

/-- The item at a position below an item. Below what is no node there is none. -/
def itemAt (s : Store) (a : Item) (p : List Int) : Except Fault Item :=
  match a, p with
  | .node id, p => s.lookUp id (signed p)
  | a, [] => .ok a
  | _, _ :: _ => .error .wrongKind

/-- The empty position is that of the item itself. -/
@[simp] theorem itemAt_nil : s.itemAt a [] = .ok a := by
  cases a <;> rfl

/-- Below what is no node nothing is found. -/
theorem itemAt_of_ne (hleaf : ∀ id, a ≠ .node id) : s.itemAt a (i :: p) = .error .wrongKind := by
  cases a with
  | node id => exact absurd rfl (hleaf id)
  | _ => rfl

/-- No table stands in a tree of items. A table may be asked for the rest of a position as a key. -/
def NoTable (t : Tree Item) : Prop := ∀ u ∈ t.visits .before, ∀ k, u.caption ≠ .table k

/-- No table stands in a child of a tree in which none does. -/
theorem NoTable.child (h : NoTable (.node a cs)) (hu : u ∈ cs) : NoTable u := by
  intro w hw
  refine h w ?_
  rw [visits, visitsAll_eq_flatMap]
  simp only [List.mem_append, List.mem_flatMap]
  exact .inl (.inr ⟨u, hu, hw⟩)

/-- The item on top of a tree without tables is no table. -/
theorem NoTable.caption_ne (h : NoTable t) (k : Nat) : t.caption ≠ .table k := by
  refine h t ?_ k
  cases t <;> simp [visits]

/-- A position with one number is that of a child. -/
theorem itemAt_singleton (hitems : s.children id = .ok items) :
    s.itemAt (.node id) [i] = elementAt items i := by
  rw [itemAt, signed, lookUp, List.map_cons, List.map_nil, Store.descend, hitems]
  rfl

/-- A way leads first to a child, and on from there. -/
theorem itemAt_cons (hitems : s.children id = .ok items)
    (hplain : ∀ b, elementAt items i = .ok b → ∀ k, b ≠ .table k) :
    s.itemAt (.node id) (i :: p) = elementAt items i >>= fun b => s.itemAt b p := by
  cases p with
  | nil =>
    rw [itemAt_singleton hitems]
    cases elementAt items i with
    | error fault => rfl
    | ok b => exact itemAt_nil.symm
  | cons j p =>
    rw [itemAt, signed, lookUp, List.map_cons, List.map_cons, Store.descend]
    · simp only [lookupIndex, Datum.int?, hitems, bind, Except.bind]
      cases hb : elementAt items i with
      | error fault => rfl
      | ok b =>
        cases b with
        | table k => exact absurd rfl (hplain _ hb k)
        | _ => rfl
    · simp

/-- No child is a table if no table stands in any of the trees. -/
theorem ne_table_of_elementAt (hplain : ∀ u ∈ cs, NoTable u)
    (hb : elementAt (cs.map caption) i = .ok b) (k : Nat) : b ≠ .table k := by
  obtain ⟨u, hu, rfl⟩ := elementAt_map_eq_ok_iff.mp hb
  obtain ⟨n, -, hn⟩ := elementAt_eq_ok_iff.mp hu
  exact (hplain u (List.mem_of_getElem? hn)).caption_ne k

/-- In an unfolded store, a way leads to the trees under a node. -/
theorem itemAt_cons_of_children (hitems : s.children id = .ok (cs.map caption))
    (hplain : ∀ u ∈ cs, NoTable u) :
    s.itemAt (.node id) (i :: p) = elementAt cs i >>= fun u => s.itemAt u.caption p := by
  rw [itemAt_cons hitems fun b hb => ne_table_of_elementAt hplain hb, elementAt_map caption cs i]
  cases elementAt cs i <;> rfl

/-- What is found at a position is found below the child that its first number names. -/
theorem Unfolds.itemAt_cons (h : Unfolds s (.node (.node id) cs))
    (hplain : NoTable (.node (.node id) cs)) :
    s.itemAt (.node id) (i :: p) = elementAt cs i >>= fun u => s.itemAt u.caption p :=
  itemAt_cons_of_children h.children fun _ hu => hplain.child hu

/-- What is under an unfolded node can be looked up there. -/
theorem Unfolds.of_elementAt (h : Unfolds s (.node a cs)) (hplain : NoTable (.node a cs))
    (hu : elementAt cs i = .ok u) :
    ∃ k, resolveIndex cs.length i = some k ∧ cs[k]? = some u ∧ u ∈ cs ∧ Unfolds s u ∧
      NoTable u := by
  obtain ⟨k, hk, hget⟩ := elementAt_eq_ok_iff.mp hu
  have hmem := List.mem_of_getElem? hget
  exact ⟨k, hk, hget, hmem, unfoldsAll_iff.mp h.2 u hmem, hplain.child hmem⟩

/-- Something is found only below a node, and below the child to which the first number leads. -/
theorem Unfolds.exists_of_itemAt_cons (h : Unfolds s t) (hplain : NoTable t)
    (hfound : s.itemAt t.caption (i :: p) = .ok a) :
    ∃ id cs u, t = .node (.node id) cs ∧ elementAt cs i = .ok u ∧
      s.itemAt u.caption p = .ok a := by
  cases t with
  | leaf b => cases (itemAt_of_ne h).symm.trans hfound
  | node b cs =>
    obtain ⟨id, rfl⟩ := h.exists_name
    rw [caption, h.itemAt_cons hplain] at hfound
    obtain ⟨u, hu, hfound⟩ := bind_eq_ok_iff.mp hfound
    exact ⟨id, cs, u, rfl, hu, hfound⟩

/-- What is found in the store stands where the way leads in the tree. -/
theorem Unfolds.exists_of_itemAt (h : Unfolds s t) (hplain : NoTable t)
    (hfound : s.itemAt t.caption p = .ok a) :
    ∃ path u, t.route? p = some path ∧ t.get? path = some u ∧ u.caption = a ∧ Unfolds s u ∧
      NoTable u := by
  induction p generalizing t with
  | nil =>
    rw [itemAt_nil] at hfound
    exact ⟨[], t, by rw [route?], by rw [get?], Except.ok.inj hfound, h, hplain⟩
  | cons i p ih =>
    obtain ⟨id, cs, u, rfl, hu, hfound⟩ := h.exists_of_itemAt_cons hplain hfound
    obtain ⟨k, hk, hget, -, hunfolds, hnone⟩ := h.of_elementAt hplain hu
    obtain ⟨path, w, hroute, hw, hcaption, hwplain⟩ := ih hunfolds hnone hfound
    refine ⟨k :: path, w, ?_, ?_, hcaption, hwplain⟩
    · exact route?_cons_eq_some_iff.mpr ⟨k, u, path, hk, hget, hroute, rfl⟩
    · rw [get?_node_cons, hget, Option.bind_some, hw]

/-- Where the way leads in the tree, the item is found in the store. -/
theorem Unfolds.itemAt_of_route (h : Unfolds s t) (hplain : NoTable t)
    (hroute : t.route? p = some path) (hu : t.get? path = some u) :
    s.itemAt t.caption p = .ok u.caption := by
  induction p generalizing t path with
  | nil =>
    obtain rfl : [] = path := by simpa [route?] using hroute
    obtain rfl : t = u := by simpa [get?] using hu
    exact itemAt_nil
  | cons i p ih =>
    cases t with
    | leaf b => simp [route?, Tree.children] at hroute
    | node b cs =>
      obtain ⟨id, rfl⟩ := h.exists_name
      obtain ⟨k, w, rest, hk, hw, hrest, rfl⟩ := route?_cons_eq_some_iff.mp hroute
      rw [Tree.children] at hk hw
      rw [get?_node_cons, hw, Option.bind_some] at hu
      have helement : elementAt cs i = .ok w := elementAt_eq_ok_iff.mpr ⟨k, hk, hw⟩
      obtain ⟨-, -, -, -, hunfolds, hnone⟩ := h.of_elementAt hplain helement
      rw [caption, h.itemAt_cons hplain, helement]
      exact ih hunfolds hnone hrest hu

/-- A way that goes on leads from what is found first. -/
theorem Unfolds.itemAt_append (h : Unfolds s t) (hplain : NoTable t)
    (hfound : s.itemAt t.caption p = .ok a) : s.itemAt t.caption (p ++ q) = s.itemAt a q := by
  induction p generalizing t with
  | nil =>
    rw [itemAt_nil] at hfound
    rw [Except.ok.inj hfound, List.nil_append]
  | cons i p ih =>
    obtain ⟨id, cs, u, rfl, hu, hfound⟩ := h.exists_of_itemAt_cons hplain hfound
    obtain ⟨-, -, -, -, hunfolds, hnone⟩ := h.of_elementAt hplain hu
    rw [caption, List.cons_append, h.itemAt_cons hplain, hu]
    exact ih hunfolds hnone hfound

/-- A way fails where it leaves the tree: at a number that is out of range, or at a leaf. -/
theorem Unfolds.itemAt_eq_error (h : Unfolds s t) (hplain : NoTable t) {fault : Fault}
    (hfault : s.itemAt t.caption p = .error fault) : fault = .outOfRange ∨ fault = .wrongKind := by
  induction p generalizing t with
  | nil =>
    rw [itemAt_nil] at hfault
    cases hfault
  | cons i p ih =>
    cases t with
    | leaf b =>
      rw [caption, itemAt_of_ne h] at hfault
      exact .inr (Except.error.inj hfault).symm
    | node b cs =>
      obtain ⟨id, rfl⟩ := h.exists_name
      rw [caption, h.itemAt_cons hplain, bind_eq_error_iff] at hfault
      rcases hfault with hfault | ⟨u, hu, hfault⟩
      · exact .inl (elementAt_eq_error hfault)
      · obtain ⟨-, -, -, -, hunfolds, hnone⟩ := h.of_elementAt hplain hu
        exact ih hunfolds hnone hfault

/-- A node that is found at a position stands in the tree. -/
theorem Unfolds.mem_namesOf_of_itemAt (h : Unfolds s t) (hplain : NoTable t)
    (hfound : s.itemAt t.caption p = .ok (.node m)) : m ∈ namesOf t := by
  obtain ⟨path, u, -, hu, hcaption, -⟩ := h.exists_of_itemAt hplain hfound
  refine mem_namesOf_iff.mpr ⟨u, ?_, hcaption⟩
  have hvisits := map_get?_positions .before t
  have hpath : path ∈ t.positions .before :=
    (mem_positions_iff (.inl rfl)).mpr (hu ▸ rfl)
  have hmem := List.mem_map_of_mem (f := t.get?) hpath
  rw [hvisits, hu] at hmem
  simpa using hmem

/-- A node that is found at a position has children. -/
theorem Unfolds.exists_children_of_itemAt (h : Unfolds s t) (hplain : NoTable t)
    (hfound : s.itemAt t.caption p = .ok (.node m)) : ∃ items, s.children m = .ok items := by
  obtain ⟨path, u, -, -, hcaption, hunfolds, -⟩ := h.exists_of_itemAt hplain hfound
  obtain ⟨us, rfl⟩ := hunfolds.exists_eq_node hcaption
  exact ⟨_, hunfolds.children⟩

/-- No node is found below itself. -/
theorem Unfolds.itemAt_ne (h : Unfolds s (.node (.node id) cs))
    (hplain : NoTable (.node (.node id) cs)) (hu : elementAt cs i = .ok u) :
    s.itemAt u.caption p ≠ .ok (.node id) := by
  intro hfound
  obtain ⟨-, -, -, hmem, hunfolds, hnone⟩ := h.of_elementAt hplain hu
  refine h.not_mem_namesOfAll ?_
  rw [namesOfAll_eq_flatMap]
  exact List.mem_flatMap.mpr ⟨u, hmem, hunfolds.mem_namesOf_of_itemAt hnone hfound⟩

end Ways

section Editing

/-- Other children of a node change nothing on the ways that do not lead to it. -/
theorem Unfolds.itemAt_setChildren (h : Unfolds s t) (hplain : NoTable t)
    (hnot : ∀ q₁ q₂, p = q₁ ++ q₂ → s.itemAt t.caption q₁ ≠ .ok (.node m)) :
    (s.setChildren m items).itemAt t.caption p = s.itemAt t.caption p := by
  induction p generalizing t with
  | nil => rw [itemAt_nil, itemAt_nil]
  | cons i p ih =>
    cases t with
    | leaf b => rw [caption, itemAt_of_ne h, itemAt_of_ne h]
    | node b cs =>
      obtain ⟨id, rfl⟩ := h.exists_name
      have hne : id ≠ m := by
        rintro rfl
        exact hnot [] (i :: p) rfl itemAt_nil
      have hchildren : (s.setChildren m items).children id = .ok (cs.map caption) :=
        (children_setChildren_of_ne hne).trans h.children
      rw [caption, itemAt_cons_of_children hchildren fun u hu => hplain.child hu,
        h.itemAt_cons hplain]
      refine bind_congr_of_ok fun u hu => ?_
      obtain ⟨-, -, -, -, hunfolds, hnone⟩ := h.of_elementAt hplain hu
      refine ih hunfolds hnone fun q₁ q₂ hsplit hfound => hnot (i :: q₁) q₂ (hsplit ▸ rfl) ?_
      rw [caption, h.itemAt_cons hplain, hu]
      exact hfound

/-- A way that leads to the node that has other children now still leads there. No node stands
below itself, so that the node is not met before. -/
theorem Unfolds.itemAt_setChildren_append (h : Unfolds s t) (hplain : NoTable t)
    (hfound : s.itemAt t.caption p = .ok (.node m)) :
    (s.setChildren m items).itemAt t.caption (p ++ q) =
      (s.setChildren m items).itemAt (.node m) q := by
  induction p generalizing t with
  | nil =>
    rw [itemAt_nil] at hfound
    rw [Except.ok.inj hfound, List.nil_append]
  | cons i p ih =>
    obtain ⟨id, cs, u, rfl, hu, hfound⟩ := h.exists_of_itemAt_cons hplain hfound
    obtain ⟨-, -, -, -, hunfolds, hnone⟩ := h.of_elementAt hplain hu
    have hne : id ≠ m := by
      rintro rfl
      exact h.itemAt_ne hplain hu hfound
    have hchildren : (s.setChildren m items).children id = .ok (cs.map caption) :=
      (children_setChildren_of_ne hne).trans h.children
    rw [caption, List.cons_append,
      itemAt_cons_of_children hchildren fun u hu => hplain.child hu, hu]
    exact ih hunfolds hnone hfound

/-- Below the node that has other children now, what stands under it still is found where it is
found among these. -/
theorem Unfolds.itemAt_setChildren_self (h : Unfolds s (.node (.node m) cs))
    (hplain : NoTable (.node (.node m) cs))
    (hsame : elementAt items j = elementAt (cs.map caption) i) :
    (s.setChildren m items).itemAt (.node m) (j :: q) = s.itemAt (.node m) (i :: q) := by
  have hplain' : ∀ u ∈ cs, NoTable u := fun u hu => hplain.child hu
  have hchildren : (s.setChildren m items).children m = .ok items :=
    children_setChildren h.children
  rw [Store.itemAt_cons hchildren fun b hb => ne_table_of_elementAt hplain' (hsame ▸ hb), hsame,
    Store.itemAt_cons h.children fun b hb => ne_table_of_elementAt hplain' hb]
  refine bind_congr_of_ok fun b hb => ?_
  obtain ⟨u, hu, rfl⟩ := elementAt_map_eq_ok_iff.mp hb
  obtain ⟨-, -, -, -, hunfolds, hnone⟩ := h.of_elementAt hplain hu
  exact hunfolds.itemAt_setChildren hnone fun q₁ q₂ _ => h.itemAt_ne hplain hu

end Editing

section Once

/-- Among trees in which no node stands twice, each node stands in one only. -/
theorem eq_of_mem_namesOf {v : Tree Item} {k l : Nat} (honce : (namesOfAll cs).Nodup)
    (hu : cs[k]? = some u) (hv : cs[l]? = some v) (hmu : m ∈ namesOf u) (hmv : m ∈ namesOf v) :
    k = l := by
  rw [namesOfAll_eq_flatMap, List.nodup_flatMap, List.pairwise_iff_getElem] at honce
  obtain ⟨hk, rfl⟩ := List.getElem?_eq_some_iff.mp hu
  obtain ⟨hl, rfl⟩ := List.getElem?_eq_some_iff.mp hv
  rcases Nat.lt_trichotomy k l with hlt | heq | hlt
  · exact absurd hmv (honce.2 k l hk hl hlt hmu)
  · exact heq
  · exact absurd hmu (honce.2 l k hl hk hlt hmv)

/-- Where no node stands twice, the ways to a node are one and the same. -/
theorem Unfolds.route_eq (h : Unfolds s t) (hplain : NoTable t) (honce : (namesOf t).Nodup)
    (hp : s.itemAt t.caption p = .ok (.node m)) (hq : s.itemAt t.caption q = .ok (.node m)) :
    t.route? p = t.route? q := by
  induction p generalizing t q with
  | nil =>
    cases q with
    | nil => rfl
    | cons j q =>
      obtain ⟨id, cs, u, rfl, hu, hfound⟩ := h.exists_of_itemAt_cons hplain hq
      rw [itemAt_nil, Except.ok.injEq, caption] at hp
      cases hp
      exact absurd hfound (h.itemAt_ne hplain hu)
  | cons i p ih =>
    obtain ⟨id, cs, u, rfl, hu, hfound⟩ := h.exists_of_itemAt_cons hplain hp
    cases q with
    | nil =>
      rw [itemAt_nil, Except.ok.injEq, caption] at hq
      cases hq
      exact absurd hfound (h.itemAt_ne hplain hu)
    | cons j q =>
      rw [caption, h.itemAt_cons hplain] at hq
      obtain ⟨v, hv, hfound'⟩ := bind_eq_ok_iff.mp hq
      obtain ⟨k, hk, hget, -, hunfolds, hnone⟩ := h.of_elementAt hplain hu
      obtain ⟨l, hl, hget', -, hunfolds', hnone'⟩ := h.of_elementAt hplain hv
      rw [namesOf_node, List.nodup_cons] at honce
      -- Both ways lead through the same child, since the node stands below one only.
      obtain rfl : k = l := eq_of_mem_namesOf honce.2 hget hget'
        (hunfolds.mem_namesOf_of_itemAt hnone hfound)
        (hunfolds'.mem_namesOf_of_itemAt hnone' hfound')
      obtain rfl : u = v := Option.some.inj (hget.symm.trans hget')
      have honce' : (namesOf u).Nodup := by
        rw [namesOfAll_eq_flatMap, List.nodup_flatMap] at honce
        exact honce.2.1 u (List.mem_of_getElem? hget)
      have hroute := ih hunfolds hnone honce' hfound hfound'
      simp [route?, Tree.children, hk, hl, hget, hroute]

end Once

end Store

end PhraseStructure
