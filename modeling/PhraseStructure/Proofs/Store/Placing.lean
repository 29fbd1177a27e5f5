import PhraseStructure.Proofs.Store.Lookup

/-!
# Changes at a position

A position of whole numbers names a child of the node to which the numbers before the last one lead
(`Unfolds.placeOf_signed`). Putting an item there, and removing what is there, succeed if there is
such a child, and they give other children to this node only. In a tree in which no node stands
twice, the ways through the node are the ways through its position, so that what is found at all
other positions is as it was (`Unfolds.placing_laws`).
-/

namespace PhraseStructure.Store

open PhraseStructure.Tree

variable {s s' : Store} {t u : Tree Item} {cs : List (Tree Item)} {a v : Item} {id m k : Nat}
  {items : List Item} {i j : Int} {p q front : List Int} {path r : List Nat} {fault root : Fault}

section Places

/-- The place of the child with an index of an item. Only a node has children. -/
def childPlace (i : Int) : Item → Except Fault Place
  | .node m => .ok (.child m i)
  | _ => .error .wrongKind

/-- The last number of a position names a child of what the others lead to. -/
theorem Unfolds.placeOf_signed (h : Unfolds s t) (hplain : NoTable t) (hid : t.caption = .node id) :
    s.placeOf root id (signed (front ++ [i])) = s.itemAt t.caption front >>= childPlace i := by
  have hsigned : ∀ id p, s.placeOf root id (signed p) = s.placeOfAll root .tuple id (p.map .int) :=
    fun id p => by rw [signed, placeOf]
  rw [hsigned]
  induction front generalizing t id with
  | nil =>
    rw [itemAt_nil, hid, List.nil_append, List.map_cons, List.map_nil, placeOfAll, placeOf]
    rfl
  | cons j front ih =>
    cases t with
    | leaf b => exact absurd hid (h id)
    | node b cs =>
      obtain rfl : b = .node id := hid
      have hfound : s.lookUp id (.int j) = (elementAt cs j).map caption := by
        rw [← elementAt_map, Store.lookUp]
        · rw [h.children]
          rfl
        all_goals simp
      obtain ⟨x, more, hmore⟩ : ∃ x more, (front ++ [i]).map Datum.int = x :: more := by
        cases front <;> exact ⟨_, _, rfl⟩
      rw [caption, h.itemAt_cons hplain, List.cons_append, List.map_cons, hmore, placeOfAll, hfound,
        ← hmore]
      · cases hu : elementAt cs j with
        | error fault => rfl
        | ok u =>
          obtain ⟨-, -, -, -, hunfolds, hnone⟩ := h.of_elementAt hplain hu
          cases u with
          | node b us =>
            obtain ⟨child, rfl⟩ := hunfolds.exists_name
            exact ih hunfolds hnone rfl
          | leaf b =>
            -- Nothing is below a leaf, neither a node nor a place in one.
            have hright : s.itemAt b front >>= childPlace i = .error .wrongKind := by
              cases front with
              | nil =>
                rw [itemAt_nil]
                cases b with
                | node child => exact absurd rfl (hunfolds child)
                | _ => rfl
              | cons x front =>
                rw [itemAt_of_ne hunfolds]
                rfl
            refine Eq.trans ?_ hright.symm
            cases b with
            | node child => exact absurd rfl (hunfolds child)
            | table k => exact absurd rfl (hnone.caption_ne k)
            | _ => rfl
      · simp

/-- The numbers before the last one of a position lead to a node, and the last one is in range for
its children. -/
def HasChild (s : Store) (id : Nat) (front : List Int) (i : Int) : Prop :=
  ∃ m items, s.lookUp id (signed front) = .ok (.node m) ∧ s.children m = .ok items ∧
    -(items.length : Int) ≤ i ∧ i < items.length

/-- There is a child exactly if the last number names one of those of the node that is found. -/
theorem hasChild_iff : s.HasChild id front i ↔ ∃ m items k,
    s.itemAt (.node id) front = .ok (.node m) ∧ s.children m = .ok items ∧
      resolveIndex items.length i = some k := by
  constructor
  · rintro ⟨m, items, hfound, hitems, hrange⟩
    cases hk : resolveIndex items.length i with
    | none => exact absurd hrange (resolveIndex_eq_none_iff.mp hk)
    | some k => exact ⟨m, items, k, hfound, hitems, hk⟩
  · rintro ⟨m, items, k, hfound, hitems, hk⟩
    exact ⟨m, items, hfound, hitems, (resolveIndex_eq_some_iff.mp hk).1⟩

/-- At the place of a child with an index, an edit gives the node other children, if the index is in
range for those that it has. -/
structure ChangesChild (s : Store) (i : Int) (edit : Place → Except Fault Store)
    (change : List Item → Nat → List Item) : Prop where
  eq_ok_iff : ∀ m s', edit (.child m i) = .ok s' ↔ ∃ items k, s.children m = .ok items ∧
    resolveIndex items.length i = some k ∧ s' = s.setChildren m (change items k)
  of_eq_error : ∀ m fault, edit (.child m i) = .error fault →
    s.children m = .error fault ∨ fault = .outOfRange

/-- An edit that attempts something with the children of a node changes them as the attempt does. -/
theorem changesChild_of_eq {edit : Place → Except Fault Store}
    {change : List Item → Nat → List Item} {attempt : List Item → Except Fault (List Item)}
    (hedit : ∀ m, edit (.child m i) = do return s.setChildren m (← attempt (← s.children m)))
    (hok : ∀ items items', attempt items = .ok items' ↔
      ∃ k, resolveIndex items.length i = some k ∧ items' = change items k)
    (herror : ∀ items fault, attempt items = .error fault → fault = .outOfRange) :
    ChangesChild s i edit change where
  eq_ok_iff m s' := by
    rw [hedit]
    constructor
    · intro h
      obtain ⟨items, hitems, h⟩ := bind_eq_ok_iff.mp h
      obtain ⟨items', hitems', h⟩ := bind_eq_ok_iff.mp h
      obtain ⟨k, hk, rfl⟩ := (hok items items').mp hitems'
      exact ⟨items, k, hitems, hk, (Except.ok.inj h).symm⟩
    · rintro ⟨items, k, hitems, hk, rfl⟩
      refine bind_eq_ok_iff.mpr ⟨items, hitems, ?_⟩
      exact bind_eq_ok_iff.mpr ⟨change items k, (hok items _).mpr ⟨k, hk, rfl⟩, rfl⟩
  of_eq_error m fault h := by
    rw [hedit] at h
    rcases bind_eq_error_iff.mp h with h | ⟨items, -, h⟩
    · exact .inl h
    · rcases bind_eq_error_iff.mp h with h | ⟨_, -, h⟩
      · exact .inr (herror items fault h)
      · cases h

/-- Putting an item at the place of a child replaces this child. -/
theorem changesChild_setPlace (s : Store) (i : Int) (v : Item) :
    ChangesChild s i (s.setPlace · v) (fun items k => items.set k v) :=
  changesChild_of_eq (fun _ => rfl) (fun _ _ => replaceAt_eq_ok_iff) fun _ _ => replaceAt_eq_error

/-- Removing what is at the place of a child erases this child. -/
theorem changesChild_deletePlace (s : Store) (i : Int) :
    ChangesChild s i s.deletePlace List.eraseIdx :=
  changesChild_of_eq (fun _ => rfl) (fun _ _ => eraseAt_eq_ok_iff) fun _ _ => eraseAt_eq_error

section Edits

variable (h : Unfolds s t) (hplain : NoTable t) (hid : t.caption = .node id)
  {edit : Place → Except Fault Store} {change : List Item → Nat → List Item}
  (hedit : ChangesChild s i edit change)

include h hplain hid hedit

/-- An edit at a position changes the children of the node to which the numbers before the last one
lead. -/
theorem Unfolds.edit_eq_ok_iff :
    s.placeOf root id (signed (front ++ [i])) >>= edit = .ok s' ↔
      ∃ m items k, s.itemAt t.caption front = .ok (.node m) ∧ s.children m = .ok items ∧
        resolveIndex items.length i = some k ∧ s' = s.setChildren m (change items k) := by
  rw [h.placeOf_signed hplain hid, bind_eq_ok_iff]
  simp only [bind_eq_ok_iff]
  constructor
  · rintro ⟨place, ⟨a, ha, hplace⟩, hs⟩
    cases a with
    | node m =>
      obtain rfl := Except.ok.inj hplace
      obtain ⟨items, k, hchanged⟩ := (hedit.eq_ok_iff m s').mp hs
      exact ⟨m, items, k, ha, hchanged⟩
    | _ => cases hplace
  · rintro ⟨m, items, k, ha, hchanged⟩
    exact ⟨.child m i, ⟨.node m, ha, rfl⟩, (hedit.eq_ok_iff m s').mpr ⟨items, k, hchanged⟩⟩

/-- An edit at a position succeeds exactly if there is a child. -/
theorem Unfolds.exists_edit_iff :
    (∃ s', s.placeOf root id (signed (front ++ [i])) >>= edit = .ok s') ↔
      s.HasChild id front i := by
  simp only [h.edit_eq_ok_iff hplain hid hedit, hasChild_iff, hid]
  constructor
  · rintro ⟨s', m, items, k, hfound, hitems, hk, -⟩
    exact ⟨m, items, k, hfound, hitems, hk⟩
  · rintro ⟨m, items, k, hfound, hitems, hk⟩
    exact ⟨_, m, items, k, hfound, hitems, hk, rfl⟩

/-- An edit at a position fails where the position leaves the tree. -/
theorem Unfolds.edit_eq_error
    (hfault : s.placeOf root id (signed (front ++ [i])) >>= edit = .error fault) :
    fault = .outOfRange ∨ fault = .wrongKind := by
  rw [h.placeOf_signed hplain hid, bind_eq_error_iff] at hfault
  rcases hfault with hfault | ⟨place, hplace, hfault⟩
  · rcases bind_eq_error_iff.mp hfault with hfault | ⟨a, -, hfault⟩
    · exact h.itemAt_eq_error hplain hfault
    · cases a with
      | node m => cases hfault
      | _ => exact .inr (Except.error.inj hfault).symm
  · obtain ⟨a, ha, hplace⟩ := bind_eq_ok_iff.mp hplace
    cases a with
    | node m =>
      obtain rfl := Except.ok.inj hplace
      obtain ⟨items, hitems⟩ := h.exists_children_of_itemAt hplain ha
      rcases hedit.of_eq_error m fault hfault with hfault | hfault
      · cases hitems.symm.trans hfault
      · exact .inl hfault
    | _ => cases hplace

end Edits

end Places

section Frames

/-- Nothing is changed but the children of one node: all labels, the other nodes, the lists, the
tables and the grammars are as before. -/
structure ChangesChildrenOf (s s' : Store) (m : Nat) : Prop where
  label_eq : ∀ n, (s'.cell n).map Cell.label = (s.cell n).map Cell.label
  cells_eq : ∀ n, n ≠ m → s'.cells[n]? = s.cells[n]?
  rows_eq : s'.rows = s.rows
  tables_eq : s'.tables = s.tables
  grammars_eq : s'.grammars = s.grammars

/-- Giving a node other children changes nothing else. -/
theorem changesChildrenOf_setChildren (s : Store) (m : Nat) (items : List Item) :
    ChangesChildrenOf s (s.setChildren m items) m where
  label_eq := label_setChildren
  cells_eq _ := cells_setChildren_of_ne
  rows_eq := rows_setChildren
  tables_eq := tables_setChildren
  grammars_eq := grammars_setChildren

/-- A position leads through another one if it leads to the same child and perhaps on from there. -/
def LeadsThrough (t : Tree Item) (p q : List Int) : Prop :=
  ∃ q₁ q₂, q = q₁ ++ q₂ ∧ t.route? q₁ = t.route? p

/-- The position before a removal of what has a position afterwards, when the child with place `k`
of the node at `r` is removed: the later children had the next place. -/
def beforeRemoval : List Nat → Nat → List Nat → List Nat
  | [], k, j :: path => (if j < k then j else j + 1) :: path
  | i :: r, k, j :: path => if i = j then j :: beforeRemoval r k path else j :: path
  | _, _, [] => []

/-- Below the node that has lost a child, the later children had the next place. -/
theorem beforeRemoval_append (r : List Nat) (k j : Nat) (path : List Nat) :
    beforeRemoval r k (r ++ j :: path) = r ++ (if j < k then j else j + 1) :: path := by
  induction r with
  | nil => rfl
  | cons i r ih => rw [List.cons_append, beforeRemoval, if_pos rfl, ih, List.cons_append]

/-- The node that has lost a child was at the same position before. -/
theorem beforeRemoval_self (r : List Nat) (k : Nat) : beforeRemoval r k r = r := by
  induction r with
  | nil => rfl
  | cons i r ih => rw [beforeRemoval, if_pos rfl, ih]

/-- What is not below the node that has lost a child was at the same position before. -/
theorem beforeRemoval_of_not_below (h : ¬r <+: path) : beforeRemoval r k path = path := by
  induction r generalizing path with
  | nil => exact absurd List.nil_prefix h
  | cons i r ih =>
    cases path with
    | nil => rfl
    | cons j path =>
      rw [beforeRemoval]
      split
      · next hij =>
        subst hij
        rw [List.prefix_cons_inj] at h
        rw [ih h]
      · rfl

/-- Under a node that is given other children, an unchanged child is found as before, and so is what
is below it. -/
theorem Unfolds.itemAt_setChildren_of_eq (h : Unfolds s t) (hplain : NoTable t)
    (hfound : s.itemAt t.caption p = .ok (.node m)) (hitems : s.children m = .ok items)
    {items' : List Item} (hsame : elementAt items' j = elementAt items i) :
    (s.setChildren m items').itemAt t.caption (p ++ j :: q) =
      s.itemAt t.caption (p ++ i :: q) := by
  obtain ⟨path, u, -, -, hcaption, hunfolds, hnone⟩ := h.exists_of_itemAt hplain hfound
  obtain ⟨us, rfl⟩ := hunfolds.exists_eq_node hcaption
  obtain rfl := Except.ok.inj (hitems.symm.trans hunfolds.children)
  rw [h.itemAt_setChildren_append hplain hfound, h.itemAt_append hplain hfound,
    hunfolds.itemAt_setChildren_self hnone hsame]

variable (h : Unfolds s t) (hplain : NoTable t) (honce : (namesOf t).Nodup)
  (hfound : s.itemAt t.caption front = .ok (.node m)) (hitems : s.children m = .ok items)
  (hk : resolveIndex items.length i = some k)

include h hplain hfound hitems hk in
/-- The place of a child that is found is the end of the way there. -/
theorem Unfolds.exists_route : ∃ r u, t.route? (front ++ [i]) = some (r ++ [k]) ∧
    t.route? front = some r ∧ t.get? r = some u := by
  obtain ⟨r, u, hroute, hu, hcaption, hunfolds, -⟩ := h.exists_of_itemAt hplain hfound
  obtain ⟨us, rfl⟩ := hunfolds.exists_eq_node hcaption
  obtain rfl := Except.ok.inj (hitems.symm.trans hunfolds.children)
  rw [List.length_map] at hk
  exact ⟨r, _, route?_append hroute hu hk, hroute, hu⟩

include h hplain honce hfound hitems hk in
/-- Another item in the place of a child changes nothing at the positions that do not lead through
the position of the child. -/
theorem Unfolds.itemAt_set (hq : ¬LeadsThrough t (front ++ [i]) q) :
    (s.setChildren m (items.set k v)).itemAt t.caption q = s.itemAt t.caption q := by
  by_cases hreach : ∃ q₁ q₂, q = q₁ ++ q₂ ∧ s.itemAt t.caption q₁ = .ok (.node m)
  · obtain ⟨q₁, q₂, rfl, hreach⟩ := hreach
    cases q₂ with
    | nil => rw [h.itemAt_setChildren_append hplain hreach, itemAt_nil, List.append_nil, hreach]
    | cons j q₂ =>
      refine h.itemAt_setChildren_of_eq hplain hreach hitems (elementAt_set_of_ne fun hj => hq ?_)
      obtain ⟨r, u, hroute, hfront, hu⟩ := h.exists_route hplain hfound hitems hk
      obtain ⟨r', u', hroute', hfront', hu'⟩ := h.exists_route hplain hreach hitems hj
      -- The node stands once, so that both ways to it are the same.
      rw [h.route_eq hplain honce hreach hfound, hfront, Option.some.injEq] at hfront'
      subst hfront'
      exact ⟨q₁ ++ [j], q₂, by simp, hroute'.trans hroute.symm⟩
  · refine h.itemAt_setChildren hplain fun q₁ q₂ hsplit hreached => hreach ?_
    exact ⟨q₁, q₂, hsplit, hreached⟩

include h hplain honce hfound hitems hk in
/-- Without a child, what is found are the items that were found before, with those after the child
one place further. -/
theorem Unfolds.itemAt_eraseIdx (hroute : t.route? (front ++ [i]) = some (r ++ [k]))
    (path : List Nat) :
    (s.setChildren m (items.eraseIdx k)).itemAt t.caption (path.map Nat.cast) =
      s.itemAt t.caption ((beforeRemoval r k path).map Nat.cast) := by
  obtain ⟨r', u, hroute', hfront, hu⟩ := h.exists_route hplain hfound hitems hk
  rw [hroute, Option.some.injEq] at hroute'
  obtain rfl : r = r' := (List.append_inj' hroute' rfl).1
  have hreached : s.itemAt t.caption (r.map Nat.cast) = .ok (.node m) := by
    have hcast := h.itemAt_of_route hplain (route?_natCast hu) hu
    have hcaption := h.itemAt_of_route hplain hfront hu
    rw [hcast, ← hcaption, hfound]
  by_cases hbegins : r <+: path
  · obtain ⟨rest, rfl⟩ := hbegins
    cases rest with
    | nil =>
      rw [List.append_nil, beforeRemoval_self, hreached,
        ← List.append_nil (r.map Nat.cast), h.itemAt_setChildren_append hplain hreached, itemAt_nil]
    | cons j rest =>
      rw [beforeRemoval_append, List.map_append, List.map_append, List.map_cons, List.map_cons]
      exact h.itemAt_setChildren_of_eq hplain hreached hitems (elementAt_eraseIdx items k j)
  · rw [beforeRemoval_of_not_below hbegins]
    refine h.itemAt_setChildren hplain fun q₁ q₂ hsplit hreach => hbegins ?_
    obtain ⟨path₁, path₂, rfl, rfl, -⟩ := List.map_eq_append_iff.mp hsplit
    have hsame := (h.route_eq hplain honce hreach hfound).trans hfront
    rw [eq_of_route?_natCast hsame]
    exact List.prefix_append _ _

end Frames

/-- In a tree in which no node stands twice, an item is put at a position exactly if the position
is that of a child. It then stands there, and what stands at the positions that do not lead through
this one is as before. What is at a position is removed under the same condition. The children after
it move up by one place, and everything else stays where it is. Both change the children of the node
to which the numbers before the last one lead, and nothing else: every node keeps its label. An edit
that fails does so because a number is out of range or leads into a leaf, and changes nothing. A
position that goes on leads from the node to which its first part leads. -/
theorem Unfolds.placing_laws (h : Unfolds s t) (hid : t.caption = .node id)
    (honce : (namesOf t).Nodup) (hplain : NoTable t) (front : List Int) (i : Int) (v : Item) :
    ((∃ s', s.set (.node id) (.place (signed (front ++ [i]))) v = .ok s') ↔
      s.HasChild id front i) ∧
    (∀ s', s.set (.node id) (.place (signed (front ++ [i]))) v = .ok s' →
      s'.lookUp id (signed (front ++ [i])) = .ok v ∧
      (∀ q, ¬LeadsThrough t (front ++ [i]) q →
        s'.lookUp id (signed q) = s.lookUp id (signed q)) ∧
      ∃ m, s.lookUp id (signed front) = .ok (.node m) ∧ ChangesChildrenOf s s' m) ∧
    ((∃ s', s.delete (.node id) (.place (signed (front ++ [i]))) = .ok s') ↔
      s.HasChild id front i) ∧
    (∀ s', s.delete (.node id) (.place (signed (front ++ [i]))) = .ok s' →
      (∃ r k, t.route? (front ++ [i]) = some (r ++ [k]) ∧ ∀ path,
        s'.lookUp id (positionOf path) = s.lookUp id (positionOf (beforeRemoval r k path))) ∧
      ∃ m, s.lookUp id (signed front) = .ok (.node m) ∧ ChangesChildrenOf s s' m) ∧
    (∀ edited ∈ [s.set (.node id) (.place (signed (front ++ [i]))) v,
        s.delete (.node id) (.place (signed (front ++ [i])))], ∀ fault, edited = .error fault →
      (fault.kind = .badPosition ∨ fault.kind = .badKind) ∧
      (Changed.ofResult s (edited.map (·, ()))).store = s) ∧
    ∀ p q m, s.lookUp id (signed p) = .ok (.node m) →
      s.lookUp id (signed (p ++ q)) = s.lookUp m (signed q) := by
  have hset := changesChild_setPlace s i v
  have hdelete := changesChild_deletePlace s i
  obtain ⟨cs, rfl⟩ := h.exists_eq_node hid
  refine ⟨h.exists_edit_iff hplain hid hset, fun s' hs => ?_,
    h.exists_edit_iff hplain hid hdelete, fun s' hs => ?_, fun edited hedited fault hfault => ?_,
    fun p q m hfound => h.itemAt_append hplain hfound⟩
  · obtain ⟨m, items, k, hfound, hitems, hk, rfl⟩ := (h.edit_eq_ok_iff hplain hid hset).mp hs
    refine ⟨?_, fun q hq => h.itemAt_set hplain honce hfound hitems hk hq, m, hfound,
      changesChildrenOf_setChildren s m _⟩
    refine (h.itemAt_setChildren_append hplain hfound).trans ?_
    rw [itemAt_singleton (children_setChildren hitems), elementAt_set_self hk]
  · obtain ⟨m, items, k, hfound, hitems, hk, rfl⟩ := (h.edit_eq_ok_iff hplain hid hdelete).mp hs
    obtain ⟨r, u, hroute, -⟩ := h.exists_route hplain hfound hitems hk
    refine ⟨⟨r, k, hroute, fun path => ?_⟩, m, hfound, changesChildrenOf_setChildren s m _⟩
    rw [positionOf_eq_signed, positionOf_eq_signed]
    exact h.itemAt_eraseIdx hplain honce hfound hitems hk hroute path
  · have hcause : fault = .outOfRange ∨ fault = .wrongKind := by
      rcases List.mem_pair.mp hedited with rfl | rfl
      · exact h.edit_eq_error hplain hid hset hfault
      · exact h.edit_eq_error hplain hid hdelete hfault
    subst hfault
    refine ⟨?_, rfl⟩
    rcases hcause with rfl | rfl
    · exact .inl rfl
    · exact .inr rfl

/-- A node over two words, and a node over it and a further word. -/
def nested : Store where
  cells := #[some ⟨.text "X", [.text "a", .text "b"]⟩, some ⟨.text "S", [.node 0, .text "c"]⟩]

/-- Another word is put in the place of the second one, at a position that is counted from behind,
and the first word is removed, so that the second one stands in its place. The node above the words
keeps its label. -/
theorem placing_laws_nested :
    ∃ s', nested.set (.node 1) (.place (signed [-2, -1])) (.text "d") = .ok s' ∧
      s'.lookUp 1 (signed [-2, -1]) = .ok (.text "d") ∧
      s'.lookUp 1 (signed [0, 0]) = nested.lookUp 1 (signed [0, 0]) ∧
      (s'.cell 0).map Cell.label = .ok (.text "X") ∧
    ∃ s', nested.delete (.node 1) (.place (signed [-2, 0])) = .ok s' ∧
      s'.lookUp 1 (positionOf [0, 0]) = nested.lookUp 1 (positionOf [0, 1]) ∧
      (s'.cell 0).map Cell.label = .ok (.text "X") := by
  let t : Tree Item := .node (.node 1) [.node (.node 0) [.leaf (.text "a"), .leaf (.text "b")],
    .leaf (.text "c")]
  have ht : Unfolds nested t := by
    simp [t, Unfolds, UnfoldsAll, nested, cell, caption, Item.text]
  have honce : (namesOf t).Nodup := by decide
  have hplain : NoTable t := by
    simp [t, NoTable, visits, visitsAll, caption, Item.text]
  have hchild : ∀ i : Int, -2 ≤ i ∧ i < 2 → nested.HasChild 1 [-2] i := fun i hi =>
    ⟨0, [.text "a", .text "b"], rfl, rfl, hi⟩
  obtain ⟨hset, hplaced, -⟩ := ht.placing_laws rfl honce hplain [-2] (-1) (.text "d")
  obtain ⟨-, -, hdelete, hremoved, -⟩ := ht.placing_laws rfl honce hplain [-2] 0 (.text "d")
  obtain ⟨s', hs⟩ := hset.mpr (hchild (-1) (by decide))
  obtain ⟨s'', hs'⟩ := hdelete.mpr (hchild 0 (by decide))
  obtain ⟨hfound, hframe, _, -, hkept⟩ := hplaced s' hs
  obtain ⟨⟨r, k, hroute, hmoved⟩, _, -, hkept'⟩ := hremoved s'' hs'
  have hroutes : t.route? [-2, -1] = some [0, 1] ∧ t.route? [-2, 0] = some ([0] ++ [0]) ∧
      t.route? [0, 0] = some [0, 0] ∧ t.route? [0] = some [0] := by decide
  obtain ⟨rfl, ⟨⟩⟩ := List.append_inj' (Option.some.inj (hroutes.2.1.symm.trans hroute)) rfl
  refine ⟨s', hs, hfound, hframe [0, 0] ?_, hkept.label_eq 0, s'', hs', hmoved [0, 0],
    hkept'.label_eq 0⟩
  rintro ⟨q₁, q₂, hsplit, hsame⟩
  rw [List.singleton_append, hroutes.1] at hsame
  rcases q₁ with _ | ⟨i, _ | ⟨j, _ | ⟨l, q₁⟩⟩⟩ <;> simp at hsplit
  · cases hsame
  · obtain ⟨rfl, -⟩ := hsplit
    cases hroutes.2.2.2.symm.trans hsame
  · obtain ⟨rfl, rfl, -⟩ := hsplit
    cases hroutes.2.2.1.symm.trans hsame

end PhraseStructure.Store
