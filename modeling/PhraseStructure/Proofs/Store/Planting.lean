import PhraseStructure.Proofs.Store.Separation

/-!
# Planted trees

A tree over texts that is planted gets a new node for each of its own (`exists_planted`): what was
in the store stays as it was, no node stands twice, and the new nodes stand for the tree.
-/

namespace PhraseStructure.Store

open PhraseStructure.Tree

variable {s s' s'' : Store} {t u : Tree Item} {us : List (Tree Item)} {w : Tree String}
  {ws : List (Tree String)} {a label : Item} {items : List Item} {m : Nat}

section Growing

/-- Nothing needs to be added. -/
theorem grows_refl (s : Store) : Grows s s :=
  ⟨fun _ _ => rfl, fun _ _ => rfl, fun _ _ => rfl⟩

/-- A store that grows does not lose nodes. -/
theorem Grows.size_le (h : Grows s s') : s.cells.size ≤ s'.cells.size := by
  by_contra hlt
  have hmissing := h.cells s'.cells.size (by omega)
  have hin := lt_size_of_getElem?_eq hmissing (by omega)
  omega

/-- Things may be added in two stages. -/
theorem Grows.trans (h : Grows s s') (h' : Grows s' s'') : Grows s s'' where
  cells m hm :=
    (h'.cells m (lt_size_of_getElem?_eq (h.cells m hm) hm)).trans (h.cells m hm)
  rows k hk := (h'.rows k (lt_size_of_getElem?_eq (h.rows k hk) hk)).trans (h.rows k hk)
  tables k hk := (h'.tables k (lt_size_of_getElem?_eq (h.tables k hk) hk)).trans (h.tables k hk)

/-- Adding a node leaves everything else as it is. -/
theorem grows_addNode (s : Store) (label : Item) (items : List Item) :
    Grows s (s.addNode label items).1 where
  cells _ hm := (Array.getElem?_push_lt hm).trans (Array.getElem?_eq_getElem hm).symm
  rows _ _ := rfl
  tables _ _ := rfl

/-- A node that is added holds its label and its children. -/
theorem cell_addNode (s : Store) (label : Item) (items : List Item) :
    (s.addNode label items).1.cell s.cells.size = .ok ⟨label, items⟩ := by
  rw [cell_eq_ok_iff]
  exact Array.getElem?_push_size

/-- What was unfolded stays so when things are added. -/
theorem Unfolds.of_grows (h : Unfolds s t) (hgrows : Grows s s') :
    Unfolds s' t ∧ s'.standing t = s.standing t :=
  h.of_cells_eq fun m hm => hgrows.cells m (h.lt_size_of_mem hm)

/-- The nodes that stand in trees of items are in the store. -/
theorem UnfoldsAll.lt_size_of_mem (h : UnfoldsAll s us) (hm : m ∈ namesOfAll us) :
    m < s.cells.size := by
  rw [namesOfAll_eq_flatMap, List.mem_flatMap] at hm
  obtain ⟨u, hu, hm⟩ := hm
  exact (unfoldsAll_iff.mp h u hu).lt_size_of_mem hm

/-- Trees of items stand for the same in a store to which things were added. -/
theorem UnfoldsAll.of_grows (h : UnfoldsAll s us) (hgrows : Grows s s') :
    UnfoldsAll s' us ∧ standingAll s' us = standingAll s us :=
  h.of_cells_eq fun m hm => hgrows.cells m (h.lt_size_of_mem hm)

end Growing

section Planting

/-- A tree of items with new nodes, none of which stands twice, stands for a tree over texts. -/
structure Planted (s s' : Store) (u : Tree Item) (w : Tree String) : Prop where
  unfolds : Unfolds s' u
  standing : s'.standing u = w.map .text
  once : (namesOf u).Nodup
  fresh : ∀ m ∈ namesOf u, s.cells.size ≤ m
  grows : Grows s s'

/-- Trees of items with new nodes, none of which stands twice, stand for trees over texts. -/
structure PlantedAll (s s' : Store) (us : List (Tree Item)) (ws : List (Tree String)) : Prop where
  unfolds : UnfoldsAll s' us
  standing : standingAll s' us = mapAll .text ws
  once : (namesOfAll us).Nodup
  fresh : ∀ m ∈ namesOfAll us, s.cells.size ≤ m
  grows : Grows s s'

/-- Nothing is added for no trees. -/
theorem plantedAll_nil (s : Store) : PlantedAll s s [] [] :=
  ⟨trivial, rfl, List.nodup_nil, by simp, grows_refl s⟩

/-- The nodes of a tree that is planted last are none of those that there are already. -/
theorem PlantedAll.cons (hs : PlantedAll s s' us ws) (h : Planted s' s'' u w) :
    PlantedAll s s'' (u :: us) (w :: ws) := by
  obtain ⟨hunfolds, hstanding⟩ := hs.unfolds.of_grows h.grows
  refine ⟨⟨h.unfolds, hunfolds⟩, ?_, ?_, ?_, hs.grows.trans h.grows⟩
  · rw [standingAll, mapAll, h.standing, hstanding, hs.standing]
  · rw [namesOfAll_cons, List.nodup_append']
    refine ⟨h.once, hs.once, fun m hm hm' => ?_⟩
    have hnew := h.fresh m hm
    have hold := hs.unfolds.lt_size_of_mem hm'
    omega
  · rw [namesOfAll_cons, List.forall_mem_append]
    exact ⟨fun m hm => hs.grows.size_le.trans (h.fresh m hm), hs.fresh⟩

/-- A new node over planted trees makes a planted tree. -/
theorem PlantedAll.addNode (h : PlantedAll s s' us ws) (word : String) :
    Planted s (s'.addNode (.text word) (us.map caption)).1 (.node (.node s'.cells.size) us)
      (.node word ws) := by
  have hgrows := grows_addNode s' (.text word) (us.map caption)
  have hcell := cell_addNode s' (.text word) (us.map caption)
  obtain ⟨hunfolds, hstanding⟩ := h.unfolds.of_grows hgrows
  refine ⟨⟨⟨_, _, rfl, hcell⟩, hunfolds⟩, ?_, ?_, ?_, h.grows.trans hgrows⟩
  · rw [Store.standing, labelOf_of_cell hcell, hstanding, h.standing, Tree.map]
  · rw [namesOf_node, List.nodup_cons]
    exact ⟨fun hm => lt_irrefl _ (h.unfolds.lt_size_of_mem hm), h.once⟩
  · rw [namesOf_node, List.forall_mem_cons]
    exact ⟨h.grows.size_le, h.fresh⟩

mutual

/-- A tree over texts gets a new node for each of its nodes. -/
theorem exists_planted : (w : Tree String) → (s : Store) →
    ∃ u, (s.plant (w.map .text)).2 = u.caption ∧ Planted s (s.plant (w.map .text)).1 u w
  | .leaf word, s => by
    have hleaf : Unfolds s (.leaf (.text word)) := fun id => by simp [Item.text]
    refine ⟨.leaf (.text word), by rw [Tree.map, plant, caption], ?_⟩
    rw [Tree.map, plant]
    refine ⟨hleaf, by rw [standing, Tree.map], ?_, ?_, grows_refl s⟩
    · rw [hleaf.namesOf_leaf]
      exact List.nodup_nil
    · rw [hleaf.namesOf_leaf]
      simp
  | .node word ws, s => by
    obtain ⟨us, hitems, hplanted⟩ := exists_plantedAll ws s
    refine ⟨.node (.node (s.plantAll (mapAll .text ws)).1.cells.size) us, ?_, ?_⟩
    · rw [Tree.map, plant]
      rfl
    · have hadded := hplanted.addNode word
      rw [← hitems] at hadded
      rw [Tree.map, plant]
      exact hadded

/-- Trees over texts are planted with new nodes. -/
theorem exists_plantedAll : (ws : List (Tree String)) → (s : Store) →
    ∃ us, (s.plantAll (mapAll .text ws)).2 = us.map caption ∧
      PlantedAll s (s.plantAll (mapAll .text ws)).1 us ws
  | [], s => ⟨[], by rw [mapAll, plantAll]; rfl, by rw [mapAll, plantAll]; exact plantedAll_nil s⟩
  | w :: ws, s => by
    obtain ⟨us, hitems, hplanted⟩ := exists_plantedAll ws s
    obtain ⟨u, hitem, hplanted'⟩ := exists_planted w (s.plantAll (mapAll .text ws)).1
    refine ⟨u :: us, ?_, ?_⟩
    · rw [mapAll, plantAll, List.map_cons, ← hitem, ← hitems]
    · rw [mapAll, plantAll]
      exact hplanted.cons hplanted'

end

end Planting

end PhraseStructure.Store
