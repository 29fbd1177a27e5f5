import Mathlib.Logic.Relation
import PhraseStructure.Proofs.Store.Lookup

/-!
# What edits cannot reach

An item leads to what it holds, and on from there (`Leads`). It is apart from some nodes if it leads
to none of them, and only to things that there are, so that nothing can take their places later
(`Apart`). An edit of a node gives parts to what the node leads to, and each of the parts was one
before or is what the edit was given. So whatever is apart stays apart (`Edit.keepsApart`), and what
is edited below an item that is apart from some nodes leaves these nodes alone, however many edits
there are and whatever is added in between (`EditedBelow.cells_eq`).
-/

namespace PhraseStructure.Store

open PhraseStructure.Tree

variable {s s' s'' : Store} {t : Tree Item} {a b own item : Item} {id m n k : Nat}
  {items : List Item} {entries : Entries} {P : List Nat}

section Leading

/-- A node holds its children, a list its items, and a table what it has under its keys. -/
def Holds (s : Store) : Item → Item → Prop
  | .node id, b => b ∈ s.childrenUnder (.node id)
  | .row id, b => b ∈ s.row id
  | .table id, b => ∃ key, (key, b) ∈ s.table id
  | _, _ => False

/-- An item leads to itself, to what it holds, and on from there. -/
def Leads (s : Store) : Item → Item → Prop := Relation.ReflTransGen s.Holds

/-- A name names a thing that there is. What grammars hold is never looked for. -/
def Names (s : Store) : Item → Prop
  | .node id => id < s.cells.size
  | .row id => id < s.rows.size
  | .table id => id < s.tables.size
  | _ => True

/-- An item leads to things that there are, and to none of some nodes. -/
def Apart (P : List Nat) (s : Store) (a : Item) : Prop :=
  ∀ b, Leads s a b → Names s b ∧ ∀ m ∈ P, b ≠ .node m

/-- An item leads to what it holds. -/
theorem Holds.leads (h : s.Holds a b) : Leads s a b := .single h

/-- What is apart from some nodes is there. -/
theorem Apart.names (h : Apart P s a) : Names s a := (h a .refl).1

/-- What is apart from some nodes is none of them. -/
theorem Apart.ne (h : Apart P s a) (hm : m ∈ P) : a ≠ .node m := (h a .refl).2 m hm

/-- What an item leads to is apart from all nodes from which the item is. -/
theorem Apart.of_leads (h : Apart P s a) (hb : Leads s a b) : Apart P s b :=
  fun c hc => h c (hb.trans hc)

/-- What an item holds is apart from all nodes from which the item is. -/
theorem Apart.of_holds (h : Apart P s a) (hb : s.Holds a b) : Apart P s b :=
  h.of_leads hb.leads

/-- A plain value leads to no node. -/
theorem apart_plain (P : List Nat) (s : Store) (d : Datum) : Apart P s (.plain d) := by
  intro b hb
  cases hb.cases_head with
  | inl heq => exact heq ▸ ⟨trivial, fun m _ => by simp⟩
  | inr hstep =>
    obtain ⟨c, hholds, -⟩ := hstep
    exact absurd hholds id

/-- A node holds its children. -/
theorem mem_childrenUnder (hitems : s.children m = .ok items) (ha : a ∈ items) :
    s.Holds (.node m) a := by
  obtain ⟨label, hcell⟩ := children_eq_ok_iff.mp hitems
  rw [Holds, childrenUnder, cell_eq_ok_iff.mp hcell]
  exact ha

end Leading

section Keeping

/-- A change leaves some nodes alone, and what was apart from them leads to nothing else now. -/
structure KeepsApart (P : List Nat) (s s' : Store) : Prop where
  names : ∀ a, Names s a → Names s' a
  holds : ∀ a b, Apart P s a → s'.Holds a b → Apart P s b
  cells : ∀ m ∈ P, s'.cells[m]? = s.cells[m]?

/-- What was apart stays apart. -/
theorem KeepsApart.apart (h : KeepsApart P s s') (ha : Apart P s a) : Apart P s' a := by
  intro b hb
  have hbefore : Apart P s b := by
    induction hb with
    | refl => exact ha
    | tail _ hstep ih => exact h.holds _ _ ih hstep
  exact ⟨h.names b hbefore.names, fun m => hbefore.ne⟩

/-- A change that leaves everything alone keeps apart what was apart. -/
theorem keepsApart_refl (P : List Nat) (s : Store) : KeepsApart P s s where
  names _ ha := ha
  holds _ _ ha hb := ha.of_holds hb
  cells _ _ := rfl

/-- No node is lost or added when a node is given other children. -/
theorem cells_size_setChildren : (s.setChildren m items).cells.size = s.cells.size := by
  rw [setChildren]
  split
  · exact Array.size_setIfInBounds
  · rfl

/-- A node that is given other children holds one of these, or is blank and holds what it did. -/
theorem holds_setChildren_self (h : (s.setChildren m items).Holds (.node m) b) :
    b ∈ items ∨ s.Holds (.node m) b := by
  rw [Holds, childrenUnder, setChildren] at h
  split at h
  · next cell hcell =>
    obtain ⟨hlt, -⟩ := Array.getElem?_eq_some_iff.mp hcell
    simp only [Array.getElem?_setIfInBounds_self, hlt, if_true, Option.join_some, Option.map_some,
      Option.getD_some] at h
    exact .inl h
  · exact .inr h

/-- A node that is apart is given children that are apart. -/
theorem keepsApart_setChildren (hm : Apart P s (.node m)) (hitems : ∀ a ∈ items, Apart P s a) :
    KeepsApart P s (s.setChildren m items) where
  names a ha := by
    cases a with
    | node n => simpa [Names, cells_size_setChildren] using ha
    | row n => simpa [Names, rows_setChildren] using ha
    | table n => simpa [Names] using ha
    | _ => trivial
  holds a b ha hb := by
    cases a with
    | node n =>
      by_cases hne : n = m
      · subst hne
        rcases holds_setChildren_self hb with hb | hb
        · exact hitems b hb
        · exact ha.of_holds hb
      · rw [Holds, childrenUnder, cells_setChildren_of_ne hne] at hb
        exact ha.of_holds hb
    | row n =>
      rw [Holds, row, rows_setChildren] at hb
      exact ha.of_holds hb
    | table n =>
      rw [Holds, table, tables_setChildren] at hb
      exact ha.of_holds hb
    | _ => exact absurd hb id
  cells n hn := cells_setChildren_of_ne fun heq => hm.ne hn (heq ▸ rfl)

/-- A table that is apart is given entries that are apart. -/
theorem keepsApart_setTable (hk : Apart P s (.table k))
    (hentries : ∀ key a, (key, a) ∈ entries → Apart P s a) :
    KeepsApart P s (s.setTable k entries) where
  names a ha := by
    cases a with
    | table n => simpa [Names, setTable] using ha
    | _ => exact ha
  holds a b ha hb := by
    cases a with
    | table n =>
      obtain ⟨key, hb⟩ := hb
      by_cases hne : k = n
      · subst hne
        have hlt : k < s.tables.size := hk.names
        simp only [table, setTable, Array.getElem?_setIfInBounds_self, hlt, if_true,
          Option.getD_some] at hb
        exact hentries key b hb
      · rw [table, setTable, Array.getElem?_setIfInBounds_ne hne] at hb
        exact ha.of_holds ⟨key, hb⟩
    | node n => exact ha.of_holds hb
    | row n => exact ha.of_holds hb
    | _ => exact absurd hb id
  cells _ _ := rfl

end Keeping

section Finding

/-- What is found under a key is among the entries. -/
theorem Entries.exists_of_lookUp {key : Datum} (h : Entries.lookUp key entries = .ok a) :
    ∃ key', (key', a) ∈ entries := by
  induction entries with
  | nil => cases h
  | cons entry rest ih =>
    obtain ⟨k, b⟩ := entry
    rw [Entries.lookUp] at h
    split at h
    · cases h
      exact ⟨k, List.mem_cons_self⟩
    · obtain ⟨key', hmem⟩ := ih h
      exact ⟨key', List.mem_cons_of_mem _ hmem⟩

/-- What is found below a node is something that the node leads to. -/
theorem leads_of_descend {rest : List Datum → Datum} {elements : List Datum}
    (h : s.descend rest id elements = .ok a) : Leads s (.node id) a := by
  induction elements generalizing id with
  | nil =>
    cases h
    exact .refl
  | cons element more ih =>
    cases more with
    | nil =>
      rw [descend] at h
      obtain ⟨i, -, h⟩ := bind_eq_ok_iff.mp h
      obtain ⟨items, hitems, h⟩ := bind_eq_ok_iff.mp h
      exact (mem_childrenUnder hitems (mem_of_elementAt h)).leads
    | cons element' more =>
      rw [descend] at h
      · obtain ⟨i, -, h⟩ := bind_eq_ok_iff.mp h
        obtain ⟨items, hitems, h⟩ := bind_eq_ok_iff.mp h
        obtain ⟨part, hpart, h⟩ := bind_eq_ok_iff.mp h
        have hholds := mem_childrenUnder hitems (mem_of_elementAt hpart)
        cases part with
        | node child => exact hholds.leads.trans (ih h)
        | table k =>
          obtain ⟨key, -, h⟩ := bind_eq_ok_iff.mp h
          exact hholds.leads.tail (Entries.exists_of_lookUp h)
        | _ => cases h
      · simp

/-- A node leads to what is found at a position in it. -/
theorem leads_of_lookUp {given : Datum} (h : s.lookUp id given = .ok a) : Leads s (.node id) a := by
  have helement : (do elementAt (← s.children id) (← readIndex given)) = .ok a →
      Leads s (.node id) a := by
    intro h
    obtain ⟨items, hitems, h⟩ := bind_eq_ok_iff.mp h
    obtain ⟨i, -, h⟩ := bind_eq_ok_iff.mp h
    exact (mem_childrenUnder hitems (mem_of_elementAt h)).leads
  rw [lookUp.eq_def] at h
  split at h
  · exact leads_of_descend h
  · exact leads_of_descend h
  · exact leads_of_descend h
  · cases h
    exact .refl
  · cases h
  · exact helement h

/-- The thing that a place is in. -/
def Place.owner : Place → Item
  | .child id _ => .node id
  | .entry id _ => .table id

/-- The place in a part that is left of a position is in this part. -/
theorem placeOfRest_eq_ok {part : Item} {rest : Datum} {place : Place}
    (h : placeOfRest part rest = .ok place) : place.owner = part := by
  cases part with
  | table id =>
    obtain ⟨key, -, h⟩ := bind_eq_ok_iff.mp h
    cases h
    rfl
  | _ => cases h

/-- A node leads to the thing in which a text names a place. -/
theorem leads_of_placeOfText {root : Fault} {word : List Char} {place : Place}
    (h : s.placeOfText root id word = .ok place) : Leads s (.node id) place.owner := by
  induction word generalizing id with
  | nil => cases h
  | cons c cs ih =>
    cases cs with
    | nil => cases h
    | cons c' cs =>
      rw [placeOfText] at h
      · obtain ⟨part, hpart, h⟩ := bind_eq_ok_iff.mp h
        have hleads := leads_of_lookUp hpart
        split at h
        · exact hleads.trans (ih h)
        · exact placeOfRest_eq_ok h ▸ hleads
      · simp

mutual

/-- A place that is named below a node is in something that the node leads to. -/
theorem leads_of_placeOf {root : Fault} {place : Place} : (given : Datum) → {id : Nat} →
    s.placeOf root id given = .ok place → Leads s (.node id) place.owner
  | .int i, id, h => by
    cases h
    exact .refl
  | .bool b, id, h => by
    cases h
    exact .refl
  | .text word, id, h => leads_of_placeOfText h
  | .list elements, id, h => leads_of_placeOfAll elements h
  | .tuple elements, id, h => leads_of_placeOfAll elements h
  | .table [], id, h => by cases h
  | .table (_ :: _), id, h => by cases h
  | .null, id, h | .real _, id, h | .symbol _, id, h | .production _, id, h | .set _, id, h => by
    cases h

/-- A node leads to the thing in which a position names a place. -/
theorem leads_of_placeOfAll {root : Fault} {rest : List Datum → Datum} {place : Place} :
    (elements : List Datum) → {id : Nat} → s.placeOfAll root rest id elements = .ok place →
    Leads s (.node id) place.owner
  | [], id, h => by cases h
  | [element], id, h => leads_of_placeOf element h
  | element :: element' :: more, id, h => by
    rw [placeOfAll] at h
    · obtain ⟨part, hpart, h⟩ := bind_eq_ok_iff.mp h
      have hleads := leads_of_lookUp hpart
      split at h
      · exact hleads.trans (leads_of_placeOfAll (element' :: more) h)
      · exact placeOfRest_eq_ok h ▸ hleads
    · simp

end

end Finding

section Parts

/-- After an item is put under a key, the entries are old ones or hold this item. -/
theorem Entries.mem_of_mem_put {key key' : Datum} (h : (key', b) ∈ entries.put key a) :
    b = a ∨ ∃ key, (key, b) ∈ entries := by
  induction entries with
  | nil =>
    cases List.mem_singleton.mp h
    exact .inl rfl
  | cons entry rest ih =>
    obtain ⟨k, c⟩ := entry
    rw [Entries.put] at h
    split at h
    · rcases List.mem_cons.mp h with heq | h
      · cases heq
        exact .inl rfl
      · exact .inr ⟨key', List.mem_cons_of_mem _ h⟩
    · rcases List.mem_cons.mp h with heq | h
      · cases heq
        exact .inr ⟨key', List.mem_cons_self⟩
      · rcases ih h with h | ⟨l, h⟩
        · exact .inl h
        · exact .inr ⟨l, List.mem_cons_of_mem _ h⟩

/-- After an entry is erased there is no new one. -/
theorem Entries.mem_of_mem_erase {key key' : Datum} {entries' : Entries}
    (h : entries.erase key = .ok entries') (hb : (key', b) ∈ entries') : (key', b) ∈ entries := by
  induction entries generalizing entries' with
  | nil => cases h
  | cons entry rest ih =>
    obtain ⟨k, c⟩ := entry
    rw [Entries.erase] at h
    split at h
    · cases h
      exact List.mem_cons_of_mem _ hb
    · obtain ⟨rest', hrest, h⟩ := bind_eq_ok_iff.mp h
      cases h
      rcases List.mem_cons.mp hb with heq | hb
      · exact heq ▸ List.mem_cons_self
      · exact List.mem_cons_of_mem _ (ih hrest hb)

/-- What is read of a sequence is held by it, or holds nothing. -/
theorem holds_of_mem_readings {outcomes : List (Except Fault Item)}
    (h : s.readings a = .ok outcomes) (hb : .ok b ∈ outcomes) :
    s.Holds a b ∨ ∃ d, b = .plain d := by
  cases a with
  | plain d =>
    obtain ⟨elements, -, h⟩ := bind_eq_ok_iff.mp h
    cases h
    obtain ⟨element, -, heq⟩ := List.mem_map.mp hb
    exact .inr ⟨element, (Except.ok.inj heq).symm⟩
  | node id =>
    obtain ⟨items, hitems, h⟩ := bind_eq_ok_iff.mp h
    cases h
    obtain ⟨item, hitem, heq⟩ := List.mem_map.mp hb
    cases heq
    exact .inl (mem_childrenUnder hitems hitem)
  | row id =>
    cases h
    obtain ⟨item, hitem, heq⟩ := List.mem_map.mp hb
    cases heq
    exact .inl hitem
  | table id =>
    cases h
    obtain ⟨⟨key, _⟩, -, heq⟩ := List.mem_map.mp hb
    exact .inr ⟨key, (Except.ok.inj heq).symm⟩
  | grammar id =>
    cases h
    obtain ⟨reading, -, heq⟩ := List.mem_map.mp hb
    cases reading with
    | error fault => cases heq
    | ok p => exact .inr ⟨.production p, (Except.ok.inj heq).symm⟩

/-- What can be read before a failure was read. -/
theorem mem_readable {outcomes : List (Except Fault Item)} (h : b ∈ (readable outcomes).1) :
    .ok b ∈ outcomes := by
  induction outcomes with
  | nil => simp [readable] at h
  | cons outcome rest ih =>
    cases outcome with
    | error fault => simp [readable] at h
    | ok a =>
      rcases List.mem_cons.mp h with rfl | h
      · exact List.mem_cons_self
      · exact List.mem_cons_of_mem _ (ih h)

/-- What is read from an item is apart from all nodes from which the item is. -/
theorem Apart.of_mem_readings {outcomes : List (Except Fault Item)} (ha : Apart P s a)
    (h : s.readings a = .ok outcomes) (hb : .ok b ∈ outcomes) : Apart P s b := by
  rcases holds_of_mem_readings h hb with hholds | ⟨d, rfl⟩
  · exact ha.of_holds hholds
  · exact apart_plain P s d

/-- The items of a sequence are apart from all nodes from which the sequence is. -/
theorem Apart.of_mem_sequence (ha : Apart P s a) (h : s.sequence a = .ok items) (hb : b ∈ items) :
    Apart P s b := by
  obtain ⟨outcomes, houtcomes, h⟩ := bind_eq_ok_iff.mp h
  rw [mapM_id_eq_ok_iff] at h
  exact ha.of_mem_readings houtcomes (h ▸ List.mem_map_of_mem hb)

/-- The children of a node are apart from all nodes from which the node is. -/
theorem Apart.of_mem_children (hm : Apart P s (.node m)) (h : s.children m = .ok items)
    (hb : b ∈ items) : Apart P s b :=
  hm.of_holds (mem_childrenUnder h hb)

end Parts

section Editing

/-- An edit of a node. -/
inductive Edit
  | append (item : Item)
  | extend (more : Item)
  | insert (index : Datum) (item : Item)
  | pop (index : Option Datum)
  | remove (item : Item)
  | set (address : Address) (item : Item)
  | delete (address : Address)

namespace Edit

/-- What an edit puts into the node, or goes through for that. -/
def given : Edit → Option Item
  | append item | insert _ item | set _ item => some item
  | extend more => some more
  | pop _ | remove _ | delete _ => none

/-- The store after an edit that leaves it as it is when it fails. -/
def kept (s : Store) (edited : Except Fault Store) : Store :=
  (Changed.ofResult s (edited.map (·, ()))).store

/-- The store after an edit of a node, whether it fails or not. -/
def run (s : Store) (m : Nat) : Edit → Store
  | append item => kept s (s.append (.node m) item)
  | extend more => (s.extend (.node m) more).store
  | insert index item => kept s (s.insert (.node m) index item)
  | pop index => (s.pop (.node m) index).store
  | remove item => kept s (s.remove (.node m) item)
  | set address item => kept s (s.set (.node m) address item)
  | delete address => kept s (s.delete (.node m) address)

end Edit

/-- An operation that changes nothing when it fails keeps apart what was apart, if it does so when
it succeeds. -/
theorem keepsApart_ofResult {α : Type} {result : Except Fault (Store × α)}
    (h : ∀ s' x, result = .ok (s', x) → KeepsApart P s s') :
    KeepsApart P s (Changed.ofResult s result).store := by
  cases result with
  | error fault => exact keepsApart_refl P s
  | ok left => exact h left.1 left.2 rfl

/-- An edit that changes nothing when it fails keeps apart what was apart, if it does so when it
succeeds. -/
theorem keepsApart_kept {edited : Except Fault Store}
    (h : ∀ s', edited = .ok s' → KeepsApart P s s') : KeepsApart P s (Edit.kept s edited) := by
  refine keepsApart_ofResult fun s' _ hs => h s' ?_
  cases edited with
  | error fault => cases hs
  | ok s'' =>
    cases hs
    rfl

/-- Putting an item that is apart at a place that is apart keeps apart what was apart. -/
theorem keepsApart_setPlace {place : Place} (howner : Apart P s place.owner) (ha : Apart P s a)
    (h : s.setPlace place a = .ok s') : KeepsApart P s s' := by
  cases place with
  | child m i =>
    obtain ⟨items, hitems, h⟩ := bind_eq_ok_iff.mp h
    obtain ⟨items', hitems', h⟩ := bind_eq_ok_iff.mp h
    cases h
    refine keepsApart_setChildren howner fun b hb => ?_
    rcases mem_of_mem_replaceAt hitems' hb with rfl | hb
    · exact ha
    · exact howner.of_mem_children hitems hb
  | entry k key =>
    cases h
    refine keepsApart_setTable howner fun key' b hb => ?_
    rcases Entries.mem_of_mem_put hb with rfl | ⟨key, hb⟩
    · exact ha
    · exact howner.of_holds ⟨key, hb⟩

/-- Removing what is at a place that is apart keeps apart what was apart. -/
theorem keepsApart_deletePlace {place : Place} (howner : Apart P s place.owner)
    (h : s.deletePlace place = .ok s') : KeepsApart P s s' := by
  cases place with
  | child m i =>
    obtain ⟨items, hitems, h⟩ := bind_eq_ok_iff.mp h
    obtain ⟨items', hitems', h⟩ := bind_eq_ok_iff.mp h
    cases h
    exact keepsApart_setChildren howner fun b hb =>
      howner.of_mem_children hitems (mem_of_mem_eraseAt hitems' hb)
  | entry k key =>
    obtain ⟨entries, hentries, h⟩ := bind_eq_ok_iff.mp h
    cases h
    exact keepsApart_setTable howner fun key' b hb =>
      howner.of_holds ⟨key', Entries.mem_of_mem_erase hentries hb⟩

/-- An edit of a node that is apart, with something that is apart, leaves apart what was so. -/
theorem Edit.keepsApart (hm : Apart P s (.node m)) (e : Edit)
    (hgiven : ∀ a ∈ e.given, Apart P s a) : KeepsApart P s (e.run s m) := by
  cases e with
  | append item =>
    refine keepsApart_kept fun s' h => ?_
    obtain ⟨items, hitems, h⟩ := bind_eq_ok_iff.mp h
    cases h
    refine keepsApart_setChildren hm fun b hb => ?_
    rcases List.mem_append.mp hb with hb | hb
    · exact hm.of_mem_children hitems hb
    · exact List.mem_singleton.mp hb ▸ hgiven item rfl
  | extend more =>
    rw [run, Store.extend]
    · cases hitems : s.parts (.node m) with
      | error fault => exact keepsApart_refl P s
      | ok items =>
        cases hreadings : s.readings more with
        | error fault => exact keepsApart_refl P s
        | ok outcomes =>
          refine keepsApart_setChildren hm fun b hb => ?_
          rcases List.mem_append.mp hb with hb | hb
          · exact hm.of_mem_children hitems hb
          · exact (hgiven more rfl).of_mem_readings hreadings (mem_readable hb)
    · simp
  | insert index item =>
    refine keepsApart_kept fun s' h => ?_
    obtain ⟨items, hitems, h⟩ := bind_eq_ok_iff.mp h
    obtain ⟨i, -, h⟩ := bind_eq_ok_iff.mp h
    cases h
    refine keepsApart_setChildren hm fun b hb => ?_
    rcases mem_of_mem_insertAt hb with rfl | hb
    · exact hgiven b rfl
    · exact hm.of_mem_children hitems hb
  | pop index =>
    refine keepsApart_ofResult fun s' a h => ?_
    obtain ⟨items, hitems, h⟩ := bind_eq_ok_iff.mp h
    obtain ⟨i, -, h⟩ := bind_eq_ok_iff.mp h
    obtain ⟨items', hitems', h⟩ := bind_eq_ok_iff.mp h
    obtain ⟨b, -, h⟩ := bind_eq_ok_iff.mp h
    cases h
    exact keepsApart_setChildren hm fun b hb =>
      hm.of_mem_children hitems (mem_of_mem_eraseAt hitems' hb)
  | remove item =>
    refine keepsApart_kept fun s' h => ?_
    obtain ⟨items, hitems, h⟩ := bind_eq_ok_iff.mp h
    obtain ⟨k, -, h⟩ := bind_eq_ok_iff.mp h
    cases h
    exact keepsApart_setChildren hm fun b hb =>
      hm.of_mem_children hitems (List.mem_of_mem_eraseIdx hb)
  | set address item =>
    refine keepsApart_kept fun s' h => ?_
    cases address with
    | place given =>
      obtain ⟨place, hplace, h⟩ := bind_eq_ok_iff.mp h
      exact keepsApart_setPlace (hm.of_leads (leads_of_placeOf _ hplace)) (hgiven item rfl) h
    | slice r =>
      obtain ⟨items, hitems, h⟩ := bind_eq_ok_iff.mp h
      obtain ⟨slice, -, h⟩ := bind_eq_ok_iff.mp h
      obtain ⟨values, hvalues, h⟩ := bind_eq_ok_iff.mp h
      obtain ⟨items', hitems', h⟩ := bind_eq_ok_iff.mp h
      cases h
      refine keepsApart_setChildren hm fun b hb => ?_
      rcases Slice.mem_of_mem_assign hitems' hb with hb | hb
      · exact hm.of_mem_children hitems hb
      · exact (hgiven item rfl).of_mem_sequence hvalues hb
  | delete address =>
    refine keepsApart_kept fun s' h => ?_
    cases address with
    | place given =>
      obtain ⟨place, hplace, h⟩ := bind_eq_ok_iff.mp h
      exact keepsApart_deletePlace (hm.of_leads (leads_of_placeOf _ hplace)) h
    | slice r =>
      obtain ⟨items, hitems, h⟩ := bind_eq_ok_iff.mp h
      obtain ⟨slice, -, h⟩ := bind_eq_ok_iff.mp h
      cases h
      exact keepsApart_setChildren hm fun b hb =>
        hm.of_mem_children hitems (Slice.mem_of_mem_erase hb)

/-- A store to which things were added. -/
structure Grows (s s' : Store) : Prop where
  cells : ∀ m < s.cells.size, s'.cells[m]? = s.cells[m]?
  rows : ∀ k < s.rows.size, s'.rows[k]? = s.rows[k]?
  tables : ∀ k < s.tables.size, s'.tables[k]? = s.tables[k]?

/-- A place with the same element is in range as well. -/
theorem lt_size_of_getElem?_eq {α : Type} {xs ys : Array α} {k : Nat} (h : ys[k]? = xs[k]?)
    (hk : k < xs.size) : k < ys.size := by
  rw [Array.getElem?_eq_getElem hk] at h
  exact (Array.getElem?_eq_some_iff.mp h).1

/-- Things that are added are held by none of those that there were. -/
theorem keepsApart_of_grows (h : Grows s s') (hP : ∀ m ∈ P, m < s.cells.size) :
    KeepsApart P s s' where
  names a ha := by
    cases a with
    | node n => exact lt_size_of_getElem?_eq (h.cells n ha) ha
    | row n => exact lt_size_of_getElem?_eq (h.rows n ha) ha
    | table n => exact lt_size_of_getElem?_eq (h.tables n ha) ha
    | _ => trivial
  holds a b ha hb := by
    have hnames := ha.names
    cases a with
    | node n =>
      rw [Holds, childrenUnder, h.cells n hnames] at hb
      exact ha.of_holds hb
    | row n =>
      rw [Holds, row, h.rows n hnames] at hb
      exact ha.of_holds hb
    | table n =>
      rw [Holds, table, h.tables n hnames] at hb
      exact ha.of_holds hb
    | _ => exact absurd hb id
  cells m hm := h.cells m (hP m hm)

/-- What becomes of a store while nodes to which an item leads are edited, with items that are apart
from some nodes, and things are added. -/
inductive EditedBelow (P : List Nat) (own : Item) (s : Store) : Store → Prop
  | refl : EditedBelow P own s s
  | edit {s₁ : Store} (m : Nat) (e : Edit) : EditedBelow P own s s₁ → Leads s₁ own (.node m) →
      (∀ a ∈ e.given, Apart P s₁ a) → EditedBelow P own s (e.run s₁ m)
  | grow {s₁ s₂ : Store} : EditedBelow P own s s₁ → Grows s₁ s₂ → EditedBelow P own s s₂

/-- Edits below an item that is apart from some nodes leave these alone. -/
theorem EditedBelow.cells_eq (h : EditedBelow P own s s') (hown : Apart P s own)
    (hP : ∀ m ∈ P, m < s.cells.size) :
    Apart P s' own ∧ ∀ m ∈ P, s'.cells[m]? = s.cells[m]? := by
  induction h with
  | refl => exact ⟨hown, fun _ _ => rfl⟩
  | edit m e _ hleads hgiven ih =>
    obtain ⟨hown', hcells⟩ := ih
    have hkeeps := e.keepsApart (hown'.of_leads hleads) hgiven
    exact ⟨hkeeps.apart hown', fun n hn => (hkeeps.cells n hn).trans (hcells n hn)⟩
  | grow _ hgrows ih =>
    obtain ⟨hown', hcells⟩ := ih
    have hkeeps := keepsApart_of_grows hgrows fun n hn =>
      lt_size_of_getElem?_eq (hcells n hn) (hP n hn)
    exact ⟨hkeeps.apart hown', fun n hn => (hkeeps.cells n hn).trans (hcells n hn)⟩

end Editing

end PhraseStructure.Store
