import PhraseStructure.Proofs.Store.Unfolding

/-!
# Post-order with shared nodes

The post-order of a tree leaves a node on its agenda until what is under it was listed, and tells
that it comes back to the node by the node having been met before. A node that stands at several
positions has been met before at all of them but the first, and is then listed without what is under
it (`listing`, `Unfolds.postorderFrom`). So every item is listed, and behind the items under it, but
the list is that of the positions exactly if no node that is shared has something under it
(`postorder_eq_iff`).
-/

namespace PhraseStructure.Store

open PhraseStructure.Tree

variable {s : Store} {t : Tree Item} {ts children : List (Tree Item)} {a : Item} {id : Nat}
  {fresh : List Nat} {items done : List Item}

section Listing

/-- The items of a tree, each after those under it. -/
def itemsOf (t : Tree Item) : List Item := (t.visits .after).map caption

/-- The items of a sequence of trees, each after those under it. -/
def itemsOfAll (ts : List (Tree Item)) : List Item := (visitsAll .after ts).map caption

/-- The items of a leaf are the leaf. -/
@[simp] theorem itemsOf_leaf : itemsOf (.leaf a) = [a] := rfl

/-- The items of a node are those under it, and then the node. -/
@[simp] theorem itemsOf_node : itemsOf (.node a children) = itemsOfAll children ++ [a] := by
  simp [itemsOf, itemsOfAll, visits, caption]

/-- No trees have no items. -/
@[simp] theorem itemsOfAll_nil : itemsOfAll [] = [] := rfl

/-- The items of the first tree come before those of the others. -/
@[simp] theorem itemsOfAll_cons : itemsOfAll (t :: ts) = itemsOf t ++ itemsOfAll ts :=
  List.map_append

mutual

/-- What is listed of a tree while some nodes have not been met, and the nodes that have not been
met after that. Of a node that was met before, only the node is listed. -/
def listing (fresh : List Nat) : Tree Item → List Item × List Nat
  | .leaf a => ([a], fresh)
  | .node (.node id) children =>
      if id ∈ fresh then
        let below := listingAll (fresh.erase id) children
        (below.1 ++ [.node id], below.2)
      else ([.node id], fresh)
  | .node a _ => ([a], fresh)

/-- What is listed of a sequence of trees, and the nodes that have not been met after that. -/
def listingAll (fresh : List Nat) : List (Tree Item) → List Item × List Nat
  | [] => ([], fresh)
  | t :: ts =>
      let first := listing fresh t
      let rest := listingAll first.2 ts
      (first.1 ++ rest.1, rest.2)

end

/-- A node that has not been met is listed after what is under it. -/
theorem listing_of_mem (h : id ∈ fresh) : listing fresh (.node (.node id) children) =
    ((listingAll (fresh.erase id) children).1 ++ [.node id],
      (listingAll (fresh.erase id) children).2) := by
  rw [listing, if_pos h]

/-- A node that was met before is listed alone. -/
theorem listing_of_not_mem (h : id ∉ fresh) :
    listing fresh (.node (.node id) children) = ([.node id], fresh) := by
  rw [listing, if_neg h]

mutual

/-- Items are left out of a listing only, and nodes are met only. -/
theorem Unfolds.listing_sublist : {t : Tree Item} → Unfolds s t → (fresh : List Nat) →
    (listing fresh t).1.Sublist (itemsOf t) ∧ (listing fresh t).2.Sublist fresh
  | .leaf a, _, fresh => by
    rw [listing, itemsOf_leaf]
    exact ⟨.refl _, .refl _⟩
  | .node a children, h, fresh => by
    obtain ⟨⟨id, -, rfl, -⟩, hall⟩ := h
    rw [itemsOf_node]
    by_cases hid : id ∈ fresh
    · obtain ⟨hlisted, hleft⟩ := UnfoldsAll.listingAll_sublist hall (fresh.erase id)
      rw [listing_of_mem hid]
      exact ⟨hlisted.append_right _, hleft.trans List.erase_sublist⟩
    · rw [listing_of_not_mem hid]
      exact ⟨List.sublist_append_right _ _, .refl _⟩

/-- What is listed of several trees are some of their items, in the same order. -/
theorem UnfoldsAll.listingAll_sublist : {ts : List (Tree Item)} → UnfoldsAll s ts →
    (fresh : List Nat) → (listingAll fresh ts).1.Sublist (itemsOfAll ts) ∧
      (listingAll fresh ts).2.Sublist fresh
  | [], _, fresh => by
    rw [listingAll]
    exact ⟨.refl _, .refl _⟩
  | t :: ts, h, fresh => by
    obtain ⟨hlisted, hleft⟩ := Unfolds.listing_sublist h.1 fresh
    obtain ⟨hrest, hleft'⟩ := UnfoldsAll.listingAll_sublist h.2 (listing fresh t).2
    rw [listingAll, itemsOfAll_cons]
    exact ⟨hlisted.append hrest, hleft'.trans hleft⟩

end

mutual

/-- The nodes that are met are those that are listed. -/
theorem Unfolds.mem_listing_iff : {t : Tree Item} → Unfolds s t → {fresh : List Nat} →
    fresh.Nodup → ∀ m, m ∈ (listing fresh t).2 ↔ m ∈ fresh ∧ .node m ∉ (listing fresh t).1
  | .leaf a, h, fresh, _, m => by
    have hne : Item.node m ≠ a := fun heq => h m heq.symm
    simp [listing, hne]
  | .node a children, h, fresh, hnodup, m => by
    obtain ⟨⟨id, -, rfl, -⟩, hall⟩ := h
    by_cases hid : id ∈ fresh
    · have hbelow := UnfoldsAll.mem_listingAll_iff hall (hnodup.erase id) m
      rw [hnodup.mem_erase_iff] at hbelow
      simp only [listing_of_mem hid, hbelow, List.mem_append, List.mem_singleton, Item.node.injEq]
      tauto
    · have hne : m ∈ fresh → m ≠ id := by
        rintro hm rfl
        exact hid hm
      simp only [listing_of_not_mem hid, List.mem_singleton, Item.node.injEq]
      tauto

/-- The nodes of several trees that have not been met afterwards are those that were not listed. -/
theorem UnfoldsAll.mem_listingAll_iff : {ts : List (Tree Item)} → UnfoldsAll s ts →
    {fresh : List Nat} → fresh.Nodup →
    ∀ m, m ∈ (listingAll fresh ts).2 ↔ m ∈ fresh ∧ .node m ∉ (listingAll fresh ts).1
  | [], _, fresh, _, m => by simp [listingAll]
  | t :: ts, h, fresh, hnodup, m => by
    have hfirst := Unfolds.mem_listing_iff h.1 hnodup m
    have hleft := (Unfolds.listing_sublist h.1 fresh).2
    have hrest := UnfoldsAll.mem_listingAll_iff h.2 (hleft.nodup hnodup) m
    rw [hfirst] at hrest
    simp only [listingAll, hrest, List.mem_append]
    tauto

end

mutual

/-- The agenda lists a tree that stands on it, and then goes on with the nodes that are left. -/
theorem Unfolds.postorderFrom : {t : Tree Item} → Unfolds s t → {fresh : List Nat} → fresh.Nodup →
    ∀ rest, s.postorderFrom fresh (t.caption :: rest) =
      (listing fresh t).1 ++ s.postorderFrom (listing fresh t).2 rest
  | .leaf a, h, fresh, _, rest => by
    rw [listing, caption, Store.postorderFrom]
    · rfl
    · exact h
  | .node a children, h, fresh, hnodup, rest => by
    have hunder := h.childrenUnder
    obtain ⟨⟨id, -, rfl, -⟩, hall⟩ := h
    rw [caption, Tree.children] at hunder
    rw [caption, Store.postorderFrom]
    by_cases hid : id ∈ fresh
    · -- The node waits on the agenda behind what is under it, and has been met by then.
      have hleft := (UnfoldsAll.listingAll_sublist hall (fresh.erase id)).2
      have hmet : id ∉ (listingAll (fresh.erase id) children).2 :=
        fun hmem => hnodup.not_mem_erase (hleft.subset hmem)
      have hbelow := UnfoldsAll.postorderFrom hall (hnodup.erase id) (.node id :: rest)
      rw [if_pos hid, hunder, hbelow, Store.postorderFrom, if_neg hmet, listing_of_mem hid,
        List.append_assoc]
      rfl
    · rw [if_neg hid, listing_of_not_mem hid]
      rfl

/-- The agenda of several trees is worked off as they are listed. -/
theorem UnfoldsAll.postorderFrom : {ts : List (Tree Item)} → UnfoldsAll s ts → {fresh : List Nat} →
    fresh.Nodup → ∀ rest, s.postorderFrom fresh (ts.map caption ++ rest) =
      (listingAll fresh ts).1 ++ s.postorderFrom (listingAll fresh ts).2 rest
  | [], _, fresh, _, rest => by
    rw [listingAll]
    rfl
  | t :: ts, h, fresh, hnodup, rest => by
    have hleft := (Unfolds.listing_sublist h.1 fresh).2
    rw [List.map_cons, List.cons_append, Unfolds.postorderFrom h.1 hnodup,
      UnfoldsAll.postorderFrom h.2 (hleft.nodup hnodup), listingAll, List.append_assoc]

end

end Listing

section Comparing

/-- No item that has something under it occurs twice. -/
def OnceWithin (s : Store) (items : List Item) : Prop :=
  items.Pairwise fun a b => a = b → s.childrenUnder a = []

/-- Those nodes among the items that have something under them have not been met. -/
def NotMet (s : Store) (fresh : List Nat) (items : List Item) : Prop :=
  ∀ m, .node m ∈ items → s.childrenUnder (.node m) ≠ [] → m ∈ fresh

/-- The nodes in two lists have not been met if those in both of them have not. -/
theorem notMet_append {others : List Item} :
    NotMet s fresh (items ++ others) ↔ NotMet s fresh items ∧ NotMet s fresh others := by
  simp only [NotMet, List.mem_append]
  constructor
  · intro h
    exact ⟨fun m hm => h m (.inl hm), fun m hm => h m (.inr hm)⟩
  · rintro ⟨h, h'⟩ m (hm | hm)
    · exact h m hm
    · exact h' m hm

/-- After some items were listed, others are not met anew exactly if they were not met before and
are not among those. -/
theorem notMet_iff_of_left {left : List Nat} {listed : List Item}
    (hleft : ∀ m, m ∈ left ↔ m ∈ fresh ∧ .node m ∉ listed) (others : List Item) :
    NotMet s left others ↔
      NotMet s fresh others ∧ ∀ a ∈ listed, ∀ b ∈ others, a = b → s.childrenUnder a = [] := by
  constructor
  · intro h
    refine ⟨fun m hm hne => ((hleft m).mp (h m hm hne)).1, ?_⟩
    rintro a ha _ hb rfl
    cases a with
    | node m =>
      by_contra hne
      exact ((hleft m).mp (h m hb hne)).2 ha
    | _ => rfl
  · rintro ⟨h, hacross⟩ m hm hne
    exact (hleft m).mpr ⟨h m hm hne, fun hmem => hne (hacross _ hmem _ hm rfl)⟩

/-- Once a node has been met, it is not met among the items below it. -/
theorem notMet_concat_iff (hnodup : fresh.Nodup) (hid : id ∈ fresh) (hself : .node id ∉ items) :
    NotMet s fresh (items ++ [.node id]) ↔ NotMet s (fresh.erase id) items := by
  have hroot : NotMet s fresh [.node id] := by
    intro m hm _
    rwa [Item.node.inj (List.mem_singleton.mp hm)]
  rw [notMet_append, and_iff_left hroot]
  refine forall_congr' fun m => forall_congr' fun hm => forall_congr' fun _ => ?_
  have hne : m ≠ id := by
    rintro rfl
    exact hself hm
  rw [hnodup.mem_erase_iff, and_iff_right hne]

/-- A further item that has not occurred does not occur twice. -/
theorem onceWithin_concat_iff (hself : a ∉ items) :
    OnceWithin s (items ++ [a]) ↔ OnceWithin s items := by
  rw [OnceWithin, List.pairwise_append, OnceWithin]
  refine and_iff_left ⟨List.pairwise_singleton _ _, fun b hb c hc heq => ?_⟩
  rw [heq, List.mem_singleton.mp hc] at hb
  exact absurd hb hself

/-- Only no trees have no items. -/
theorem itemsOfAll_eq_nil_iff : itemsOfAll ts = [] ↔ ts = [] := by
  cases ts with
  | nil => simp
  | cons t ts => cases t <;> simp

/-- Of two parts with items left out neither lacks any if the whole does not. -/
theorem append_eq_append_iff_of_sublist {α : Type} {xs ys xs' ys' : List α} (hx : xs.Sublist xs')
    (hy : ys.Sublist ys') : xs ++ ys = xs' ++ ys' ↔ xs = xs' ∧ ys = ys' := by
  constructor
  · intro h
    have hlength := congrArg List.length h
    rw [List.length_append, List.length_append] at hlength
    have hxs := hx.length_le
    have hys := hy.length_le
    exact ⟨hx.eq_of_length (by omega), hy.eq_of_length (by omega)⟩
  · rintro ⟨rfl, rfl⟩
    rfl

/-- No item stands below itself. -/
theorem Unfolds.not_mem_itemsOfAll (h : Unfolds s (.node a children)) :
    a ∉ itemsOfAll children := by
  intro hmem
  obtain ⟨u, hu, hcaption⟩ := List.mem_map.mp hmem
  exact h.caption_ne hu hcaption

mutual

/-- Nothing is left out of a tree exactly if what has something under it has not been met, and
occurs once. -/
theorem Unfolds.listing_eq_iff : {t : Tree Item} → Unfolds s t → {fresh : List Nat} →
    fresh.Nodup → ((listing fresh t).1 = itemsOf t ↔
      NotMet s fresh (itemsOf t) ∧ OnceWithin s (itemsOf t))
  | .leaf a, h, fresh, _ => by
    have hmet : NotMet s fresh [a] := fun m hm => absurd (List.mem_singleton.mp hm).symm (h m)
    rw [listing, itemsOf_leaf]
    exact iff_of_true rfl ⟨hmet, List.pairwise_singleton _ _⟩
  | .node a children, h, fresh, hnodup => by
    have hself := h.not_mem_itemsOfAll
    have hunder := h.childrenUnder
    obtain ⟨⟨id, -, rfl, -⟩, hall⟩ := h
    rw [caption, Tree.children] at hunder
    rw [itemsOf_node]
    by_cases hid : id ∈ fresh
    · rw [listing_of_mem hid, List.append_cancel_right_eq, notMet_concat_iff hnodup hid hself,
        onceWithin_concat_iff hself]
      exact UnfoldsAll.listingAll_eq_iff hall (hnodup.erase id)
    · -- The node is listed alone, so that nothing is left out only where nothing is under it.
      rw [listing_of_not_mem hid]
      constructor
      · intro h
        have hnone : children = [] := itemsOfAll_eq_nil_iff.mp (by simpa using h)
        subst hnone
        refine ⟨fun m hm hne => ?_, List.pairwise_singleton _ _⟩
        rw [List.mem_singleton.mp hm] at hne
        exact absurd hunder hne
      · rintro ⟨hmet, -⟩
        have hnone : children = [] := by
          by_contra hne
          refine hid (hmet id (List.mem_append_right _ List.mem_cons_self) ?_)
          rw [hunder]
          simpa using hne
        rw [hnone]
        rfl

/-- All items of several trees are listed exactly if no node with something under it was met before
or stands twice. -/
theorem UnfoldsAll.listingAll_eq_iff : {ts : List (Tree Item)} → UnfoldsAll s ts →
    {fresh : List Nat} → fresh.Nodup → ((listingAll fresh ts).1 = itemsOfAll ts ↔
      NotMet s fresh (itemsOfAll ts) ∧ OnceWithin s (itemsOfAll ts))
  | [], _, fresh, _ => by
    have hmet : NotMet s fresh [] := fun m hm => by simp at hm
    rw [listingAll, itemsOfAll_nil]
    exact iff_of_true rfl ⟨hmet, List.Pairwise.nil⟩
  | t :: ts, h, fresh, hnodup => by
    obtain ⟨hlisted, hleft⟩ := Unfolds.listing_sublist h.1 fresh
    have hlisted' := (UnfoldsAll.listingAll_sublist h.2 (listing fresh t).2).1
    have hfirst := Unfolds.listing_eq_iff h.1 hnodup
    have hrest := UnfoldsAll.listingAll_eq_iff h.2 (hleft.nodup hnodup)
    have hmet := notMet_iff_of_left (s := s) (Unfolds.mem_listing_iff h.1 hnodup) (itemsOfAll ts)
    rw [listingAll, itemsOfAll_cons, append_eq_append_iff_of_sublist hlisted hlisted',
      notMet_append, OnceWithin, List.pairwise_append]
    constructor
    · rintro ⟨hall, hall'⟩
      obtain ⟨hnot, honce⟩ := hfirst.mp hall
      obtain ⟨hnot', honce'⟩ := hrest.mp hall'
      rw [hmet, hall] at hnot'
      exact ⟨⟨hnot, hnot'.1⟩, honce, honce', hnot'.2⟩
    · rintro ⟨⟨hnot, hnot'⟩, honce, honce', hacross⟩
      have hall := hfirst.mpr ⟨hnot, honce⟩
      rw [← hall] at hacross
      exact ⟨hall, hrest.mpr ⟨hmet.mpr ⟨hnot', hacross⟩, honce'⟩⟩

end

end Comparing

section Ordering

/-- Every item stands behind the items under it. -/
def IsOrdered (s : Store) (items : List Item) : Prop :=
  ∀ front a back, items = front ++ a :: back → s.childrenUnder a ⊆ front

/-- Without items nothing is out of order. -/
theorem isOrdered_nil : IsOrdered s [] := by
  intro front a back h
  simp at h

/-- If the items are in order, what is under one of them is among them. -/
theorem IsOrdered.childrenUnder_subset (h : IsOrdered s items) (ha : a ∈ items) :
    s.childrenUnder a ⊆ items := by
  obtain ⟨front, back, rfl⟩ := List.append_of_mem ha
  exact List.Subset.trans (h front a back rfl) (List.subset_append_left _ _)

/-- A further item is in order if what is under it is among those before. -/
theorem IsOrdered.concat (h : IsOrdered s items) (ha : s.childrenUnder a ⊆ items) :
    IsOrdered s (items ++ [a]) := by
  intro front b back heq
  rcases List.eq_nil_or_concat back with rfl | ⟨back, c, rfl⟩
  · obtain ⟨rfl, hlast⟩ := List.append_inj' heq rfl
    rwa [← List.singleton_inj.mp hlast]
  · rw [List.concat_eq_append, ← List.cons_append, ← List.append_assoc] at heq
    obtain ⟨rfl, -⟩ := List.append_inj' heq rfl
    exact h front b back rfl

mutual

/-- What is listed of a tree goes on with an ordered list, in which the nodes stand that were met
before. -/
theorem Unfolds.isOrdered_listing : {t : Tree Item} → Unfolds s t → {fresh : List Nat} →
    fresh.Nodup → {done : List Item} → IsOrdered s done →
    (∀ m, .node m ∈ itemsOf t → m ∉ fresh → .node m ∈ done) →
    IsOrdered s (done ++ (listing fresh t).1) ∧ t.caption ∈ (listing fresh t).1
  | .leaf a, h, fresh, _, done, hdone, _ => by
    have hnone : s.childrenUnder a = [] := h.childrenUnder
    rw [listing]
    exact ⟨hdone.concat (hnone ▸ List.nil_subset done), List.mem_cons_self⟩
  | .node a children, h, fresh, hnodup, done, hdone, hmet => by
    have hself := h.not_mem_itemsOfAll
    have hunder := h.childrenUnder
    obtain ⟨⟨id, -, rfl, -⟩, hall⟩ := h
    rw [caption, Tree.children] at hunder
    rw [itemsOf_node] at hmet
    by_cases hid : id ∈ fresh
    · -- Below the node it counts as met although it is not listed yet. It does not stand there.
      have hmet' : ∀ m, .node m ∈ itemsOfAll children → m ∉ fresh.erase id → .node m ∈ done := by
        intro m hm hnot
        refine hmet m (List.mem_append_left _ hm) fun hmem => hnot ?_
        have hne : m ≠ id := by
          rintro rfl
          exact hself hm
        exact hnodup.mem_erase_iff.mpr ⟨hne, hmem⟩
      obtain ⟨hbelow, hcaptions⟩ :=
        UnfoldsAll.isOrdered_listingAll hall (hnodup.erase id) hdone hmet'
      rw [listing_of_mem hid, ← List.append_assoc]
      refine ⟨hbelow.concat ?_, List.mem_append_right _ List.mem_cons_self⟩
      rw [hunder]
      exact List.subset_append_of_subset_right _ hcaptions
    · have hlisted := hmet id (List.mem_append_right _ List.mem_cons_self) hid
      rw [listing_of_not_mem hid]
      exact ⟨hdone.concat (hdone.childrenUnder_subset hlisted), List.mem_cons_self⟩

/-- What is listed of several trees is in order behind what was listed before, and their roots are
in it. -/
theorem UnfoldsAll.isOrdered_listingAll : {ts : List (Tree Item)} → UnfoldsAll s ts →
    {fresh : List Nat} → fresh.Nodup → {done : List Item} → IsOrdered s done →
    (∀ m, .node m ∈ itemsOfAll ts → m ∉ fresh → .node m ∈ done) →
    IsOrdered s (done ++ (listingAll fresh ts).1) ∧ ts.map caption ⊆ (listingAll fresh ts).1
  | [], _, fresh, _, done, hdone, _ => by
    rw [listingAll, List.append_nil]
    exact ⟨hdone, List.nil_subset _⟩
  | t :: ts, h, fresh, hnodup, done, hdone, hmet => by
    rw [itemsOfAll_cons] at hmet
    have hleft := (Unfolds.listing_sublist h.1 fresh).2
    obtain ⟨hfirst, hcaption⟩ := Unfolds.isOrdered_listing h.1 hnodup hdone
      fun m hm => hmet m (List.mem_append_left _ hm)
    have hmet' : ∀ m, .node m ∈ itemsOfAll ts → m ∉ (listing fresh t).2 →
        .node m ∈ done ++ (listing fresh t).1 := by
      intro m hm hnot
      rw [Unfolds.mem_listing_iff h.1 hnodup, not_and_not_right] at hnot
      by_cases hmem : m ∈ fresh
      · exact List.mem_append_right _ (hnot hmem)
      · exact List.mem_append_left _ (hmet m (List.mem_append_right _ hm) hmem)
    obtain ⟨hrest, hcaptions⟩ :=
      UnfoldsAll.isOrdered_listingAll h.2 (hleft.nodup hnodup) hfirst hmet'
    rw [listingAll, ← List.append_assoc]
    refine ⟨hrest, List.cons_subset.mpr ⟨List.mem_append_left _ hcaption, ?_⟩⟩
    exact List.subset_append_of_subset_right _ hcaptions

end

mutual

/-- An ordered list that holds an item holds everything below it. -/
theorem Unfolds.itemsOf_subset (hitems : IsOrdered s items) : {t : Tree Item} → Unfolds s t →
    t.caption ∈ items → itemsOf t ⊆ items
  | .leaf a, _, ha => by
    rw [itemsOf_leaf]
    exact List.cons_subset.mpr ⟨ha, List.nil_subset items⟩
  | .node a children, h, ha => by
    have hunder : children.map caption ⊆ items :=
      h.childrenUnder ▸ hitems.childrenUnder_subset ha
    rw [itemsOf_node]
    exact List.append_subset.mpr ⟨UnfoldsAll.itemsOfAll_subset hitems h.2 hunder,
      List.cons_subset.mpr ⟨ha, List.nil_subset items⟩⟩

/-- If the roots of several trees are among items in order, so are all items of the trees. -/
theorem UnfoldsAll.itemsOfAll_subset (hitems : IsOrdered s items) : {ts : List (Tree Item)} →
    UnfoldsAll s ts → ts.map caption ⊆ items → itemsOfAll ts ⊆ items
  | [], _, _ => List.nil_subset items
  | t :: ts, h, hcaptions => by
    obtain ⟨hfirst, hrest⟩ := List.cons_subset.mp hcaptions
    rw [itemsOfAll_cons]
    exact List.append_subset.mpr ⟨Unfolds.itemsOf_subset hitems h.1 hfirst,
      UnfoldsAll.itemsOfAll_subset hitems h.2 hrest⟩

end

end Ordering

section Names

/-- No node is named twice. -/
theorem nodup_nodeNames (s : Store) : s.nodeNames.Nodup :=
  (List.reverse_perm (List.range s.cells.size)).nodup_iff.mpr List.nodup_range

/-- The nodes that are reached have names. -/
theorem Unfolds.mem_nodeNames (h : Unfolds s t) (hid : .node id ∈ itemsOf t) :
    id ∈ s.nodeNames := by
  obtain ⟨u, hu, hcaption⟩ := List.mem_map.mp hid
  cases u with
  | leaf a => exact absurd hcaption (h.of_mem_visits hu id)
  | node a children =>
    obtain ⟨⟨id', label, rfl, hcell⟩, -⟩ := h.of_mem_visits hu
    obtain rfl : id' = id := Item.node.inj hcaption
    obtain ⟨hlt, -⟩ := Array.getElem?_eq_some_iff.mp (cell_eq_ok_iff.mp hcell)
    simpa [nodeNames] using hlt

end Names

/-- The post-order of a node whose tree does not go on forever lists every item of the tree, and
each behind what is under it. It is what stands at the positions in post-order, with some items left
out: none is, and there are as many as in pre-order, exactly if no node that has something under it
stands at two positions. -/
theorem postorder_eq_iff {steps : Nat} {v : Tree Item}
    (h : s.viewWithin steps (.node id) = .ok v) :
    ∃ items, (v.positions .after).mapM (fun path => s.lookUp id (positionOf path)) = .ok items ∧
      items.length = v.preorder.length ∧
      (s.postorder (.node id)).Sublist items ∧ items ⊆ s.postorder (.node id) ∧
      IsOrdered s (s.postorder (.node id)) ∧
      (s.postorder (.node id) = items ↔ OnceWithin s items) ∧
      ((s.postorder (.node id)).length = v.preorder.length ↔ OnceWithin s items) := by
  obtain ⟨t, ht, hid, hshape⟩ := exists_unfolds h
  have hnodup := nodup_nodeNames s
  have hlisting : s.postorder (.node id) = (listing s.nodeNames t).1 := by
    rw [postorder, ← hid, ht.postorderFrom hnodup, Store.postorderFrom, List.append_nil]
  have hsublist := (ht.listing_sublist s.nodeNames).1
  have hlookups : (v.positions .after).mapM (fun path => s.lookUp id (positionOf path)) =
      .ok (itemsOf t) := by
    have hstanding := map_get?_positions .after t
    rw [← List.forall₂_eq_eq_eq, List.forall₂_map_left_iff, List.forall₂_map_right_iff] at hstanding
    rw [mapM_eq_ok_iff, ← positions_of_shape hshape, itemsOf, List.forall₂_map_right_iff]
    exact hstanding.imp fun path u hu => ht.lookUp hid hu
  have hlength : (itemsOf t).length = v.preorder.length := by
    rw [itemsOf, List.length_map, length_visits_after, length_preorder, size_of_shape hshape]
  have hmet : NotMet s s.nodeNames (itemsOf t) := fun m hm _ => ht.mem_nodeNames hm
  have hsame := ht.listing_eq_iff hnodup
  rw [and_iff_right hmet] at hsame
  obtain ⟨hordered, hroot⟩ := ht.isOrdered_listing hnodup isOrdered_nil
    fun m hm hnot => absurd (ht.mem_nodeNames hm) hnot
  rw [List.nil_append] at hordered
  refine ⟨itemsOf t, hlookups, hlength, ?_⟩
  rw [hlisting]
  refine ⟨hsublist, ht.itemsOf_subset hordered hroot, hordered, hsame, ?_⟩
  rw [← hsame, ← hlength]
  constructor
  · intro hcount
    exact hsublist.eq_of_length hcount
  · intro heq
    rw [heq]

/-- A node without children, and one over a word, each of which stands twice under another node. -/
def sharing : Store where
  cells := #[some ⟨.text "Y", []⟩, some ⟨.text "X", [.text "a"]⟩,
    some ⟨.text "S", [.node 0, .node 0]⟩, some ⟨.text "T", [.node 1, .node 1]⟩]

/-- A node without children may stand at two positions; one with a word under it is listed without
the word at the second one. -/
theorem postorder_eq_iff_sharing :
    ∃ v v', sharing.view (.node 2) = .ok v ∧ sharing.view (.node 3) = .ok v' ∧
      (v.positions .after).mapM (fun path => sharing.lookUp 2 (positionOf path)) =
        .ok (sharing.postorder (.node 2)) ∧
      (sharing.postorder (.node 3)).length ≠ v'.preorder.length := by
  let bare : Tree Item := .node (.text "Y") []
  let x : Tree Item := .node (.text "X") [.leaf (.text "a")]
  let v : Tree Item := .node (.text "S") [bare, bare]
  let v' : Tree Item := .node (.text "T") [x, x]
  have hv : sharing.view (.node 2) = .ok v := rfl
  have hv' : sharing.view (.node 3) = .ok v' := rfl
  have hplaces : (v.positions .after).mapM (fun path => sharing.lookUp 2 (positionOf path)) =
      .ok [.node 0, .node 0, .node 2] := rfl
  have hplaces' : (v'.positions .after).mapM (fun path => sharing.lookUp 3 (positionOf path)) =
      .ok [.text "a", .node 1, .text "a", .node 1, .node 3] := rfl
  have honce : OnceWithin sharing [.node 0, .node 0, .node 2] := by
    simp [OnceWithin, childrenUnder, sharing]
  have htwice : ¬OnceWithin sharing [.text "a", .node 1, .text "a", .node 1, .node 3] := by
    simp [OnceWithin, childrenUnder, sharing, Item.text]
  obtain ⟨items, hitems, -, -, -, -, hall, -⟩ := postorder_eq_iff hv
  obtain ⟨items', hitems', -, -, -, -, -, hcount⟩ := postorder_eq_iff hv'
  cases hplaces.symm.trans hitems
  cases hplaces'.symm.trans hitems'
  rw [← hall.mpr honce] at hplaces
  exact ⟨v, v', hv, hv', hplaces, fun h => htwice (hcount.mp h)⟩

/-- The post-order need not be what stands at the positions in post-order: a node with a word under
it that stands twice is listed twice, but the word once. -/
theorem not_postorder_eq_positions :
    ¬∀ (s : Store) (id : Nat) (v : Tree Item) (items : List Item), s.view (.node id) = .ok v →
      (v.positions .after).mapM (fun path => s.lookUp id (positionOf path)) = .ok items →
      s.postorder (.node id) = items := by
  intro h
  let x : Tree Item := .node (.text "X") [.leaf (.text "a")]
  have hlist : sharing.postorder (.node 3) = [.text "a", .node 1, .node 1, .node 3] := by
    simp [postorder, nodeNames, sharing, postorderFrom, childrenUnder, Item.text, List.range_succ]
  have hsame := h sharing 3 (.node (.text "T") [x, x])
    [.text "a", .node 1, .text "a", .node 1, .node 3] rfl rfl
  rw [hlist] at hsame
  simp at hsame

end PhraseStructure.Store
