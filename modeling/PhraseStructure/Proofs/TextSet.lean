import PhraseStructure.Proofs.Fingerprint
import PhraseStructure.Proofs.SetAlgebra

/-!
# Sets of texts

A set of texts is made of a list of them (`DatumSet.ofTexts`). What it does with another one beside
it is what is done with the lists (`DatumSet.interWith_ofTexts` and so on). So the operators keep to
the laws of sets, and whatever comes out holds each element once, where it comes first
(`DatumSet.operator_laws`).
-/

namespace PhraseStructure

variable {xs ys : List String}

/-- Texts are equal as values if they are equal. -/
theorem Datum.text_beq (s t : String) : (Datum.text s == Datum.text t) = (s == t) := by
  change Datum.same (.text s) (.text t) = _
  rw [Datum.same]

namespace DatumSet

/-- The set of some texts. -/
def ofTexts (xs : List String) : DatumSet := (OrderedSet.ofList xs).map Datum.text

/-- The elements of the set of some texts are these texts, each once. -/
theorem toList_ofTexts (xs : List String) :
    (ofTexts xs).toList = (distinct xs).map Datum.text := rfl

/-- The set of texts as values is that of the texts. -/
theorem ofList_texts (xs : List String) : OrderedSet.ofList (xs.map Datum.text) = ofTexts xs :=
  OrderedSet.ofList_map Datum.text_beq xs

section Making

/-- Texts can be kept in a set. -/
theorem areKeys_texts (xs : List String) : Datum.areKeys (xs.map Datum.text) = true := by
  induction xs with
  | nil => rfl
  | cons x xs ih =>
    rw [List.map_cons, Datum.areKeys, ih]
    rfl

/-- A set is made of texts. -/
theorem ofElements_texts (xs : List String) :
    ofElements (xs.map Datum.text) = .ok (ofTexts xs) := by
  rw [ofElements, if_pos (areKeys_texts xs), ofList_texts]

/-- A set is made of a list of texts. -/
theorem ofDatum_texts (xs : List String) :
    ofDatum (.list (xs.map Datum.text)) = .ok (ofTexts xs) := by
  cases xs with
  | nil => rfl
  | cons x xs =>
    rw [ofDatum, if_neg (by simp [Datum.isVoid])]
    exact ofElements_texts (x :: xs)

/-- Texts that a set was made of are made to the same set again. -/
theorem ofElements_toList (xs : List String) :
    ofElements (ofTexts xs).toList = .ok (ofTexts xs) := by
  have hagain : ofTexts (distinct xs) = ofTexts xs := by
    rw [ofTexts, OrderedSet.ofList, distinct_distinct]
    rfl
  rw [toList_ofTexts, ofElements_texts, hagain]

end Making

section Operators

/-- A set of texts that is given as a value is this set. -/
theorem toSet_toDatum (xs : List String) : (ofTexts xs).toDatum.toSet = .ok (ofTexts xs) :=
  ofElements_toList xs

/-- A text is found in a set whichever of the two is asked. -/
theorem mem_toDatum (s : String) (xs : List String) :
    Datum.mem (.text s) (ofTexts xs).toDatum = .ok ((ofTexts xs).contains (.text s)) := by
  have hsame : ∀ t, (Datum.text t).same (.text s) = (s == t) := by
    intro t
    rw [Datum.same, Bool.beq_comm]
  have hfound : (ofTexts xs).toList.any (·.same (.text s)) = (ofTexts xs).contains (.text s) := by
    rw [ofTexts, OrderedSet.contains_map Datum.text_beq, OrderedSet.map, List.any_map,
      OrderedSet.contains, List.contains_eq_any_beq]
    exact List.any_congr rfl hsame
  exact congrArg Except.ok hfound

/-- Two sets of texts are compared text by text. -/
theorem equalTo_ofTexts (xs ys : List String) : (ofTexts xs).equalTo (ofTexts ys).toDatum =
    .ok ((OrderedSet.ofList xs).equal (.ofList ys)) := by
  have helements : (ofTexts ys).toDatum.elements? = some (ofTexts ys).toList := rfl
  simp only [equalTo, helements, ofElements_toList]
  exact congrArg Except.ok (OrderedSet.equal_map Datum.text_beq _ _)

/-- Sets are equal if they are made of the same texts. -/
theorem equalTo_ofTexts_of_mem_iff (h : ∀ s, s ∈ xs ↔ s ∈ ys) :
    (ofTexts xs).equalTo (ofTexts ys).toDatum = .ok true := by
  rw [equalTo_ofTexts, OrderedSet.equal_ofList_iff.mpr h]

/-- Inclusion between two sets of texts is decided text by text. -/
theorem subsetOf_ofTexts (xs ys : List String) : (ofTexts xs).subsetOf (ofTexts ys).toDatum =
    .ok ((OrderedSet.ofList xs).subset (.ofList ys)) :=
  congrArg Except.ok (OrderedSet.subset_map Datum.text_beq _ _)

/-- The intersection of two sets of texts is the set of the texts that are in both. -/
theorem interWith_ofTexts (xs ys : List String) :
    (ofTexts xs).interWith (ofTexts ys).toDatum = .ok (ofTexts (xs.filter ys.contains)) := by
  have hmem : ∀ x ∈ (ofTexts xs).toList,
      Datum.mem x (ofTexts ys).toDatum = .ok ((ofTexts ys).contains x) := by
    intro x hx
    obtain ⟨s, -, rfl⟩ := List.mem_map.mp hx
    exact mem_toDatum s ys
  have hinter := OrderedSet.inter_map Datum.text_beq (.ofList xs) (.ofList ys)
  rw [OrderedSet.inter_ofList] at hinter
  unfold interWith
  rw [filterM_eq_ok hmem]
  exact congrArg Except.ok hinter

/-- Common texts come in the order of the first set. -/
theorem toList_ofTexts_filter (xs ys : List String) : (ofTexts (xs.filter ys.contains)).toList =
    (ofTexts xs).toList.filter (ofTexts ys).contains := by
  have hcontains : (ofTexts ys).contains ∘ Datum.text = ys.contains := by
    rw [← OrderedSet.contains_ofList_eq]
    exact funext (OrderedSet.contains_map Datum.text_beq _)
  rw [toList_ofTexts, toList_ofTexts, List.filter_map, hcontains, distinct_filter]

/-- The union of two sets of texts is the set of the texts of both. -/
theorem unionWith_ofTexts (xs ys : List String) :
    (ofTexts xs).unionWith (ofTexts ys).toDatum = .ok (ofTexts (xs ++ ys)) := by
  have hunion := OrderedSet.union_map Datum.text_beq (.ofList xs) (.ofList ys)
  rw [OrderedSet.union_ofList] at hunion
  rw [unionWith, toSet_toDatum]
  exact congrArg Except.ok hunion

/-- The difference of two sets of texts is the set of the texts that are in the first only. -/
theorem diffWith_ofTexts (xs ys : List String) :
    (ofTexts xs).diffWith (ofTexts ys).toDatum = .ok (ofTexts (xs.filter (!ys.contains ·))) := by
  have hdiff := OrderedSet.diff_map Datum.text_beq (.ofList xs) (.ofList ys)
  rw [OrderedSet.diff_ofList] at hdiff
  rw [diffWith, toSet_toDatum]
  exact congrArg Except.ok hdiff

/-- The symmetric difference of two sets of texts is the set of the texts that are in one only. -/
theorem symmDiffWith_ofTexts (xs ys : List String) :
    (ofTexts xs).symmDiffWith (ofTexts ys).toDatum =
      .ok (ofTexts (xs.filter (!ys.contains ·) ++ ys.filter (!xs.contains ·))) := by
  have hsymmDiff := OrderedSet.symmDiff_map Datum.text_beq (.ofList xs) (.ofList ys)
  rw [OrderedSet.symmDiff_ofList] at hsymmDiff
  rw [symmDiffWith, toSet_toDatum]
  exact congrArg Except.ok hsymmDiff

end Operators

section Hashes

/-- Every text has a fingerprint. -/
theorem ofAll?_texts (xs : List String) :
    Fingerprint.ofAll? (xs.map Datum.text) = some (xs.map Fingerprint.ofText) := by
  rw [Fingerprint.ofAll?_eq_mapM, mapM_eq_some_iff, List.forall₂_map_left_iff,
    List.forall₂_map_right_iff, List.forall₂_same]
  exact fun _ _ => rfl

/-- Sets of the same texts hold them in one order or another. -/
theorem perm_ofTexts (h : ∀ s, s ∈ xs ↔ s ∈ ys) : (ofTexts xs).toList.Perm (ofTexts ys).toList := by
  have hperm : (distinct xs).Perm (distinct ys) := by
    refine (List.perm_ext_iff_of_nodup (firstOccurrences_distinct xs).nodup
      (firstOccurrences_distinct ys).nodup).mpr fun s => ?_
    rw [mem_distinct, mem_distinct, h]
  exact hperm.map Datum.text

end Hashes

/-- A set holds some texts, each once, in the order in which they come first. -/
def HoldsFirst (s : DatumSet) (xs : List String) : Prop :=
  ∃ zs : List String, s.toList = zs.map Datum.text ∧ FirstOccurrences zs xs

/-- The set of some texts holds each of them where it comes first. -/
theorem holdsFirst_ofTexts (xs : List String) : (ofTexts xs).HoldsFirst xs :=
  ⟨distinct xs, rfl, firstOccurrences_distinct xs⟩

/-- Sets of texts keep to the laws of sets under all operators. They are equal exactly if they are
made of the same texts, and then they have the same fingerprint and the same hash, whatever their
elements are hashed to. What comes out holds each text once, where it comes first, and what is
common comes in the order of the first set. -/
theorem operator_laws (xs ys : List String) :
    ∃ a b i u d e, ofDatum (.list (xs.map .text)) = .ok a ∧ ofDatum (.list (ys.map .text)) = .ok b ∧
      a.interWith b.toDatum = .ok i ∧ a.unionWith b.toDatum = .ok u ∧
      a.diffWith b.toDatum = .ok d ∧ a.symmDiffWith b.toDatum = .ok e ∧
      a.HoldsFirst xs ∧ i.HoldsFirst (xs.filter ys.contains) ∧ u.HoldsFirst (xs ++ ys) ∧
      d.HoldsFirst (xs.filter (!ys.contains ·)) ∧
      e.HoldsFirst (xs.filter (!ys.contains ·) ++ ys.filter (!xs.contains ·)) ∧
      i.toList = a.toList.filter b.contains ∧
      (∃ same, a.equalTo b.toDatum = .ok same ∧ (same = true ↔ ∀ s, s ∈ xs ↔ s ∈ ys) ∧
        (same = true → a.sameFingerprint b = true ∧ a.toDatum.hash = b.toDatum.hash ∧
          ∀ word, mixInAnyOrder (a.toList.map word) = mixInAnyOrder (b.toList.map word))) ∧
      (∃ w, i.unionWith d.toDatum = .ok w ∧ w.equalTo a.toDatum = .ok true ∧
        w.HoldsFirst (xs.filter ys.contains ++ xs.filter (!ys.contains ·))) ∧
      (∃ w, u.diffWith i.toDatum = .ok w ∧ e.equalTo w.toDatum = .ok true ∧
        w.HoldsFirst ((xs ++ ys).filter (!(xs.filter ys.contains).contains ·))) ∧
      (∃ w, b.interWith a.toDatum = .ok w ∧ i.equalTo w.toDatum = .ok true ∧
        w.HoldsFirst (ys.filter xs.contains)) ∧
      ∃ part, a.subsetOf b.toDatum = .ok part ∧ i.equalTo a.toDatum = .ok part ∧
        (part = true ↔ ∀ s ∈ xs, s ∈ ys) := by
  refine ⟨ofTexts xs, ofTexts ys, _, _, _, _, ofDatum_texts xs, ofDatum_texts ys,
    interWith_ofTexts xs ys, unionWith_ofTexts xs ys, diffWith_ofTexts xs ys,
    symmDiffWith_ofTexts xs ys, holdsFirst_ofTexts _, holdsFirst_ofTexts _, holdsFirst_ofTexts _,
    holdsFirst_ofTexts _, holdsFirst_ofTexts _, ?_, ?_, ?_, ?_, ?_, ?_⟩
  · exact toList_ofTexts_filter xs ys
  · refine ⟨_, equalTo_ofTexts xs ys, OrderedSet.equal_ofList_iff, fun hsame => ?_⟩
    have hperm := perm_ofTexts (OrderedSet.equal_ofList_iff.mp hsame)
    exact ⟨sameFingerprint_of_perm hperm (ofAll?_texts _), Datum.hash_set_of_perm hperm,
      fun word => mixInAnyOrder_perm (hperm.map word)⟩
  · refine ⟨_, unionWith_ofTexts _ _, equalTo_ofTexts_of_mem_iff fun s => ?_, holdsFirst_ofTexts _⟩
    rw [List.mem_append, mem_filter_contains, mem_filter_not_contains]
    tauto
  · refine ⟨_, diffWith_ofTexts _ _, equalTo_ofTexts_of_mem_iff fun s => ?_, holdsFirst_ofTexts _⟩
    simp only [List.mem_append, mem_filter_contains, mem_filter_not_contains]
    tauto
  · refine ⟨_, interWith_ofTexts _ _, equalTo_ofTexts_of_mem_iff fun s => ?_, holdsFirst_ofTexts _⟩
    rw [mem_filter_contains, mem_filter_contains, and_comm]
  · refine ⟨_, subsetOf_ofTexts xs ys, ?_, OrderedSet.subset_ofList_iff⟩
    rw [equalTo_ofTexts, Except.ok.injEq, Bool.eq_iff_iff, OrderedSet.equal_ofList_iff,
      OrderedSet.subset_ofList_iff]
    simp only [mem_filter_contains, and_iff_left_iff_imp]

/-- What is common comes in the order of the first set. -/
example : (ofTexts ["b", "a", "b", "c"]).interWith (ofTexts ["c", "b"]).toDatum =
    .ok (ofTexts ["b", "c"]) := by cbv

end DatumSet

end PhraseStructure
