import PhraseStructure.Proofs.Store.Planting
import PhraseStructure.Proofs.Store.Traversal
import PhraseStructure.Store.Make

/-!
# Copies with new nodes throughout

A copy that is to have new nodes throughout stands for the same tree as the original, has no node in
common with it, and has none that stands twice, however the nodes of the original are shared. So the
post-order of the copy lists every occurrence, and neither the original nor the copy is changed by
edits of the other one (`copy_laws`).
-/

namespace PhraseStructure.Store

open PhraseStructure.Tree

variable {s s' : Store} {t u : Tree Item} {ts us : List (Tree Item)} {w : Tree String}
  {ws : List (Tree String)} {a label : Item} {items : List Item} {id m n steps : Nat} {P : List Nat}

section Texts

/-- A tree of items stands for a word exactly if it is the leaf of this word. -/
theorem standing_eq_leaf_iff {word : String} (h : Unfolds s t) :
    s.standing t = (leaf word).map .text ↔ t = .leaf (.text word) := by
  cases t with
  | leaf b => rw [standing, Tree.map]
  | node b ts => simp [standing, Tree.map]

/-- A tree of items that stands for a node over texts is one. -/
theorem Unfolds.of_standing_eq_node {word : String} (h : Unfolds s t)
    (hstanding : s.standing t = (node word ws).map .text) :
    ∃ id ts, t = .node (.node id) ts ∧ s.cell id = .ok ⟨.text word, ts.map caption⟩ ∧
      UnfoldsAll s ts ∧ standingAll s ts = mapAll .text ws := by
  cases t with
  | leaf b => simp [standing, Tree.map] at hstanding
  | node b ts =>
    obtain ⟨⟨id, label, rfl, hcell⟩, hall⟩ := h
    rw [standing, Tree.map, Tree.node.injEq, labelOf_of_cell hcell] at hstanding
    obtain ⟨rfl, hbelow⟩ := hstanding
    exact ⟨id, ts, rfl, hcell, hall, hbelow⟩

end Texts

section Sameness

/-- A text is the same as itself. -/
theorem sameWithin_text (s : Store) (steps : Nat) (word : String) :
    s.sameWithin (steps + 1) (.text word) (.text word) = .ok true := by
  have hsame : Datum.equalTo (.text word) (.text word) = .ok true := by
    simp [Datum.equalTo, BEq.beq, Datum.same]
  exact hsame

/-- Sequences are the same if their first items are and the others are. -/
theorem sameItems_cons {same : Item → Item → Except Fault Bool} {a b : Item} {as bs : List Item}
    (hfirst : same a b = .ok true) (hrest : sameItems same as bs = .ok true) :
    sameItems same (a :: as) (b :: bs) = .ok true := by
  rw [sameItems] at hrest
  split at hrest
  · next hlength =>
    have hpair : (if identical a b then .ok true else same a b) = .ok true := by
      split
      · rfl
      · exact hfirst
    rw [sameItems, if_pos (by rw [List.length_cons, List.length_cons, hlength])]
    exact bind_eq_ok_iff.mpr ⟨true, hpair, hrest⟩
  · cases hrest

mutual

/-- Trees of items that stand for the same tree over texts are the same. -/
theorem Unfolds.sameWithin : (w : Tree String) → {t u : Tree Item} → Unfolds s t → Unfolds s u →
    s.standing t = w.map .text → s.standing u = w.map .text → {steps : Nat} →
    t.depth < steps → s.sameWithin steps t.caption u.caption = .ok true
  | .leaf word, t, u, ht, hu, hstanding, hstanding', steps + 1, _ => by
    rw [(standing_eq_leaf_iff ht).mp hstanding, (standing_eq_leaf_iff hu).mp hstanding']
    exact sameWithin_text s steps word
  | .node word ws, t, u, ht, hu, hstanding, hstanding', steps + 1, hsteps => by
    obtain ⟨m, ts, rfl, hcell, hts, hbelow⟩ := ht.of_standing_eq_node hstanding
    obtain ⟨n, us, rfl, hcell', hus, hbelow'⟩ := hu.of_standing_eq_node hstanding'
    rw [depth] at hsteps
    obtain ⟨k, rfl⟩ : ∃ k, steps = k + 1 := ⟨steps - 1, by omega⟩
    have hlabel := sameWithin_text s k word
    have hsteps' : depthAll ts < k + 1 := by omega
    have hitems := UnfoldsAll.sameItems ws hts hus hbelow hbelow' hsteps'
    refine bind_eq_ok_iff.mpr ⟨_, hcell, bind_eq_ok_iff.mpr ⟨_, hcell', ?_⟩⟩
    exact bind_eq_ok_iff.mpr ⟨true, hlabel, hitems⟩

/-- Sequences of items that stand for the same trees over texts are the same. -/
theorem UnfoldsAll.sameItems : (ws : List (Tree String)) → {ts us : List (Tree Item)} →
    UnfoldsAll s ts → UnfoldsAll s us → standingAll s ts = mapAll .text ws →
    standingAll s us = mapAll .text ws → {steps : Nat} → depthAll ts < steps →
    Store.sameItems (s.sameWithin steps) (ts.map caption) (us.map caption) = .ok true
  | [], [], [], _, _, _, _, steps, _ => rfl
  | w :: ws, t :: ts, u :: us, ht, hu, hstanding, hstanding', steps, hsteps => by
    rw [standingAll, mapAll, List.cons.injEq] at hstanding hstanding'
    rw [depthAll] at hsteps
    exact sameItems_cons
      (Unfolds.sameWithin w ht.1 hu.1 hstanding.1 hstanding'.1 (by omega))
      (UnfoldsAll.sameItems ws ht.2 hu.2 hstanding.2 hstanding'.2 (by omega))

end

end Sameness

section Reaching

/-- What holds things that are apart is apart if it is none of the nodes itself. -/
theorem apart_of_holds (hnames : Names s a) (hne : ∀ m ∈ P, a ≠ .node m)
    (hholds : ∀ b, s.Holds a b → Apart P s b) : Apart P s a := by
  intro b hb
  rcases hb.cases_head with rfl | ⟨c, hc, hb⟩
  · exact ⟨hnames, hne⟩
  · exact hholds c hc b hb

mutual

/-- A tree over texts leads to its own nodes only. -/
theorem Unfolds.apart : (w : Tree String) → {t : Tree Item} → Unfolds s t →
    s.standing t = w.map .text → (∀ m ∈ P, m ∉ namesOf t) → Apart P s t.caption
  | .leaf word, t, ht, hstanding, _ => by
    rw [(standing_eq_leaf_iff ht).mp hstanding]
    exact apart_plain P s (.text word)
  | .node word ws, t, ht, hstanding, hP => by
    obtain ⟨id, ts, rfl, hcell, hts, hbelow⟩ := ht.of_standing_eq_node hstanding
    rw [namesOf_node] at hP
    have hall := UnfoldsAll.apart ws hts hbelow fun m hm hmem =>
      hP m hm (List.mem_cons_of_mem _ hmem)
    have hunder := ht.childrenUnder
    refine apart_of_holds (ht.lt_size_of_mem (by simp)) ?_ fun b hb => ?_
    · rintro m hm ⟨⟩
      exact hP id hm List.mem_cons_self
    · rw [caption, Tree.children] at hunder
      rw [caption, Holds, hunder] at hb
      exact hall b hb

/-- Items over texts are apart from every node that is not among theirs. -/
theorem UnfoldsAll.apart : (ws : List (Tree String)) → {ts : List (Tree Item)} → UnfoldsAll s ts →
    standingAll s ts = mapAll .text ws → (∀ m ∈ P, m ∉ namesOfAll ts) →
    ∀ a ∈ ts.map caption, Apart P s a
  | [], [], _, _, _ => by simp
  | w :: ws, t :: ts, hts, hstanding, hP => by
    rw [standingAll, mapAll, List.cons.injEq] at hstanding
    rw [namesOfAll_cons] at hP
    rw [List.map_cons, List.forall_mem_cons]
    exact ⟨Unfolds.apart w hts.1 hstanding.1 fun m hm hmem => hP m hm (List.mem_append_left _ hmem),
      UnfoldsAll.apart ws hts.2 hstanding.2 fun m hm hmem => hP m hm (List.mem_append_right _ hmem)⟩

end

end Reaching

section Listing

/-- Where no node stands twice, none with something under it is listed twice. -/
theorem onceWithin_of_nodup (h : (items.filterMap nodeName?).Nodup) : OnceWithin s items := by
  induction items with
  | nil => exact .nil
  | cons a items ih =>
    refine List.pairwise_cons.mpr ⟨?_, ih (h.sublist ((List.sublist_cons_self _ _).filterMap _))⟩
    rintro b hb rfl
    cases a with
    | node m =>
      have hnames : (.node m :: items).filterMap nodeName? = m :: items.filterMap nodeName? := rfl
      rw [hnames, List.nodup_cons] at h
      exact absurd (List.mem_filterMap.mpr ⟨_, hb, nodeName?_eq_some_iff.mpr rfl⟩) h.1
    | _ => rfl

/-- If no node stands twice in a tree, no item that has something under it is listed twice. -/
theorem onceWithin_itemsOf (honce : (namesOf t).Nodup) : OnceWithin s (itemsOf t) := by
  refine onceWithin_of_nodup ?_
  rw [itemsOf, List.filterMap_map]
  exact (((visits_after_perm t).filterMap _).nodup_iff).mpr honce

/-- Where no node stands twice, the post-order lists every item behind those under it. -/
theorem Unfolds.postorder_eq (h : Unfolds s t) (honce : (namesOf t).Nodup) :
    s.postorder t.caption = itemsOf t := by
  have hnodup := nodup_nodeNames s
  have hmet : NotMet s s.nodeNames (itemsOf t) := fun m hm _ => h.mem_nodeNames hm
  rw [postorder, h.postorderFrom hnodup, Store.postorderFrom, List.append_nil]
  exact (h.listing_eq_iff hnodup).mpr ⟨hmet, onceWithin_itemsOf honce⟩

end Listing

/-- A tree over texts is not changed by edits below another one that has no node in common with
it. -/
theorem Unfolds.view_of_editedBelow {v : Tree String} (ht : Unfolds s t) (hu : Unfolds s u)
    (hstanding : s.standing u = v.map .text) (hapart : ∀ m ∈ namesOf t, m ∉ namesOf u)
    (hedited : EditedBelow (namesOf t) u.caption s s') :
    Unfolds s' t ∧ s'.view t.caption = .ok (s.standing t) := by
  obtain ⟨-, hcells⟩ := hedited.cells_eq (hu.apart v hstanding hapart) fun m => ht.lt_size_of_mem
  obtain ⟨ht', hsame⟩ := ht.of_cells_eq hcells
  exact ⟨ht', hsame ▸ ht'.view⟩

/-- A copy that is to have new nodes throughout is made of every tree over texts. The original is
still what it was. The copy is the same as the original, no node of the copy is one of the original,
and none of it stands twice, so that its post-order lists every occurrence of the original behind
what is below it. The original is not changed by edits of the copy and of what this leads to, with
items that lead to no node of the original, nor is the copy by such edits of the original. -/
theorem copy_laws (h : s.view (.node id) = .ok (w.map .text)) :
    ∃ s' n t u, s.copy (.node id) (some (.bool true)) = .ok (s', .node n) ∧
      (Unfolds s t ∧ Unfolds s' t ∧ t.caption = .node id) ∧
      (Unfolds s' u ∧ u.caption = .node n) ∧
      s'.view (.node id) = .ok (w.map .text) ∧ s'.view (.node n) = .ok (w.map .text) ∧
      s'.same (.node n) (.node id) = .ok true ∧
      (∀ m ∈ namesOf u, m ∉ namesOf t) ∧ (namesOf u).Nodup ∧
      (s'.postorder (.node n)).mapM s'.view = .ok ((w.map .text).visits .after) ∧
      (∀ s'', EditedBelow (namesOf t) (.node n) s' s'' →
        Unfolds s'' t ∧ s''.view (.node id) = .ok (w.map .text)) ∧
      ∀ s'', EditedBelow (namesOf u) (.node id) s' s'' →
        Unfolds s'' u ∧ s''.view (.node n) = .ok (w.map .text) := by
  obtain ⟨t, ht, hid, hstanding⟩ := view_eq_ok_iff.mp h
  obtain ⟨u, hroot, hu⟩ := exists_planted w s
  obtain ⟨ht', hstanding'⟩ := ht.of_grows hu.grows
  rw [hstanding] at hstanding'
  obtain ⟨ts, rfl⟩ := ht.exists_eq_node hid
  obtain ⟨word, ws, rfl⟩ : ∃ word ws, w = node word ws := by
    cases w with
    | leaf word => cases (standing_eq_leaf_iff ht).mp hstanding
    | node word ws => exact ⟨word, ws, rfl⟩
  obtain ⟨n, us, rfl, -⟩ := hu.unfolds.of_standing_eq_node hu.standing
  have hfresh : ∀ m ∈ namesOf (.node (.node n) us), m ∉ namesOf (.node (.node id) ts) := by
    intro m hm hm'
    have hnew := hu.fresh m hm
    have hold := ht.lt_size_of_mem hm'
    omega
  have hcopy : s.copy (.node id) (some (.bool true)) =
      .ok (s.plant ((node word ws).map .text)) := by
    obtain ⟨⟨_, label, ⟨⟩, hcell⟩, -⟩ := ht
    refine bind_eq_ok_iff.mpr ⟨_, hcell, ?_⟩
    exact bind_eq_ok_iff.mpr ⟨_, h, rfl⟩
  have hview := ht'.view
  have hview' := hu.unfolds.view
  rw [hstanding'] at hview
  rw [hu.standing] at hview'
  refine ⟨_, n, .node (.node id) ts, .node (.node n) us, ?_, ⟨ht, ht', rfl⟩, ⟨hu.unfolds, rfl⟩,
    hview, hview', ?_, hfresh, hu.once, ?_, fun s'' hedited => ?_, fun s'' hedited => ?_⟩
  · rw [hcopy, Except.ok.injEq]
    exact Prod.ext rfl hroot
  · exact Unfolds.sameWithin _ hu.unfolds ht' hu.standing hstanding'
      (Nat.lt_succ_of_le hu.unfolds.depth_le)
  · have hlist := hu.unfolds.postorder_eq hu.once
    have hvisits := hu.unfolds.mapM_view .after
    rw [caption] at hlist
    rw [hu.standing] at hvisits
    rw [hlist]
    exact hvisits
  · rw [← hstanding']
    exact ht'.view_of_editedBelow hu.unfolds hu.standing (fun m hm hm' => hfresh m hm' hm) hedited
  · rw [← hu.standing]
    exact hu.unfolds.view_of_editedBelow ht' hstanding' hfresh hedited

/-- In a copy of a node under which another one stands twice, two nodes stand there. When one of
them is given another word, the original still has the old one at both positions. -/
theorem copy_laws_sharing :
    ∃ s' n, sharing.copy (.node 3) (some (.bool true)) = .ok (s', .node n) ∧
      s'.same (.node n) (.node 3) = .ok true ∧
      (s'.postorder (.node n)).mapM s'.view = .ok (((node "T" [node "X" [leaf "a"],
        node "X" [leaf "a"]]).map .text).visits .after) ∧
      ((Edit.set (.place (signed [0, 0])) (.text "b")).run s' n).view (.node 3) =
        .ok ((node "T" [node "X" [leaf "a"], node "X" [leaf "a"]]).map .text) := by
  have hview : sharing.view (.node 3) =
      .ok ((node "T" [node "X" [leaf "a"], node "X" [leaf "a"]]).map .text) := rfl
  obtain ⟨s', n, t, u, hcopy, -, -, -, -, hsame, -, -, hlist, hedited, -⟩ := copy_laws hview
  refine ⟨s', n, hcopy, hsame, hlist, (hedited _ (.edit n _ .refl .refl ?_)).2⟩
  rintro a ⟨⟩
  exact apart_plain _ s' _

end PhraseStructure.Store
