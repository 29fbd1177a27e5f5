import Mathlib.Data.List.Nodup
import PhraseStructure.Proofs.OrderedSet

/-!
# Calculating with ordered sets

The elements of a set stand where they come first in the list that it was made of
(`FirstOccurrences`). An operation on sets gives the set that is made of what the same operation
gives on the lists (`OrderedSet.inter_ofList`, `OrderedSet.union_ofList` and the others), so that
laws of sets are laws of membership in lists. They hold as well of elements under other names
(`OrderedSet.map`), as long as the names are equal for equal elements only.
-/

namespace PhraseStructure

variable {α β : Type}

/-- The elements of a list, each once, in the order in which they come first. -/
structure FirstOccurrences [BEq α] (zs xs : List α) : Prop where
  nodup : zs.Nodup
  mem_iff : ∀ x, x ∈ zs ↔ x ∈ xs
  ordered : zs.Pairwise fun x y => xs.idxOf x < xs.idxOf y

section Distinct

variable [BEq α] [EquivBEq α] {seen seen' xs ys : List α}

/-- What is left out of a part of the list would be left out of the whole list. -/
theorem distinctFrom_distinctFrom_append
    (h : ∀ x, seen'.contains x = true → seen.contains x = true) (xs ys : List α) :
    distinctFrom seen (distinctFrom seen' xs ++ ys) = distinctFrom seen (xs ++ ys) := by
  induction xs generalizing seen seen' with
  | nil => rfl
  | cons x xs ih =>
    rw [distinctFrom, List.cons_append, distinctFrom]
    split
    · next hseen' => rw [if_pos (h x hseen'), ih h]
    · rw [List.cons_append, distinctFrom]
      split
      · next hseen =>
        refine ih fun z hz => ?_
        rw [List.contains_cons, Bool.or_eq_true] at hz
        rcases hz with hzx | hz
        · exact (List.contains_congr hzx).trans hseen
        · exact h z hz
      · refine congrArg (x :: ·) (ih fun z hz => ?_)
        rw [List.contains_cons, Bool.or_eq_true] at hz ⊢
        exact hz.imp_right (h z)

/-- Repetitions may be left out of the first of two lists before they are put together. -/
theorem distinct_distinct_append (xs ys : List α) :
    distinct (distinct xs ++ ys) = distinct (xs ++ ys) :=
  distinctFrom_distinctFrom_append (fun _ h => h) xs ys

/-- Repetitions may be left out of the second of two lists before they are put together. -/
theorem distinct_append_distinct (xs ys : List α) :
    distinct (xs ++ distinct ys) = distinct (xs ++ ys) := by
  have hrest : ∀ seen : List α,
      distinctFrom seen (distinctFrom [] ys) = distinctFrom seen ys := by
    intro seen
    have hnone : ∀ x, ([] : List α).contains x = true → seen.contains x = true := by simp
    have hseen := distinctFrom_distinctFrom_append hnone ys []
    rwa [List.append_nil, List.append_nil] at hseen
  have hfront : ∀ seen : List α,
      distinctFrom seen (xs ++ distinct ys) = distinctFrom seen (xs ++ ys) := by
    induction xs with
    | nil => exact hrest
    | cons x xs ih =>
      intro seen
      rw [List.cons_append, List.cons_append, distinctFrom, distinctFrom, ih, ih]
  exact hfront []

/-- Nothing is repeated once the repetitions are left out. -/
theorem distinct_distinct (xs : List α) : distinct (distinct xs) = distinct xs := by
  simpa using distinct_distinct_append xs []

end Distinct

section Lawful

variable [BEq α] [LawfulBEq α] {seen seen' xs : List α} {keep : α → Bool} {x : α}

/-- The elements that are left are those that were not seen before. -/
theorem mem_distinctFrom : x ∈ distinctFrom seen xs ↔ x ∉ seen ∧ x ∈ xs := by
  have hfirst : xs.find? (· == x) = some x ↔ x ∈ xs := by
    constructor
    · exact List.mem_of_find?_eq_some
    · intro hx
      obtain ⟨y, hy⟩ : ∃ y, xs.find? (· == x) = some y :=
        Option.isSome_iff_exists.mp (List.find?_isSome.mpr ⟨x, hx, beq_self_eq_true x⟩)
      have hyx : (y == x) = true := by simpa using List.find?_some hy
      rw [hy, eq_of_beq hyx]
  rw [mem_distinctFrom_iff, hfirst, List.contains_eq_mem, decide_eq_false_iff_not]

/-- Leaving out repetitions loses no element. -/
theorem mem_distinct : x ∈ distinct xs ↔ x ∈ xs := by
  simp [distinct, mem_distinctFrom]

/-- Elements can be selected before or after. Of those seen before only selected ones matter. -/
theorem distinctFrom_filter (h : ∀ x, keep x = true → seen'.contains x = seen.contains x) :
    distinctFrom seen' (xs.filter keep) = (distinctFrom seen xs).filter keep := by
  induction xs generalizing seen seen' with
  | nil => rfl
  | cons x xs ih =>
    rw [distinctFrom, List.filter_cons]
    by_cases hx : keep x = true
    · have hboth : ∀ y, keep y = true → (x :: seen').contains y = (x :: seen).contains y := by
        intro y hy
        rw [List.contains_cons, List.contains_cons, h y hy]
      rw [if_pos hx, distinctFrom, h x hx]
      split
      · exact ih h
      · rw [List.filter_cons_of_pos hx, ih hboth]
    · have hone : ∀ y, keep y = true → seen'.contains y = (x :: seen).contains y := by
        intro y hy
        have hyx : (y == x) = false := by
          rw [beq_eq_false_iff_ne]
          rintro rfl
          exact hx hy
        rw [List.contains_cons, hyx, Bool.false_or, h y hy]
      rw [if_neg hx]
      split
      · exact ih h
      · rw [List.filter_cons_of_neg hx, ih hone]

/-- Repetitions may be left out before or after other elements are. -/
theorem distinct_filter (keep : α → Bool) (xs : List α) :
    distinct (xs.filter keep) = (distinct xs).filter keep :=
  distinctFrom_filter fun _ _ => rfl

/-- The elements that are left stand in the order in which they come first. -/
theorem pairwise_idxOf_distinctFrom (seen xs : List α) :
    (distinctFrom seen xs).Pairwise fun x y => xs.idxOf x < xs.idxOf y := by
  induction xs generalizing seen with
  | nil => exact List.Pairwise.nil
  | cons x xs ih =>
    -- What comes after `x` and differs from it stands one place further on.
    have hnext : ∀ y, y ≠ x → (x :: xs).idxOf y = xs.idxOf y + 1 :=
      fun y hy => List.idxOf_cons_ne xs hy.symm
    have hlater : ∀ seen, x ∈ seen → (distinctFrom seen xs).Pairwise
        fun y z => (x :: xs).idxOf y < (x :: xs).idxOf z := by
      intro seen hx
      have hne : ∀ y ∈ distinctFrom seen xs, y ≠ x := by
        rintro y hy rfl
        exact (mem_distinctFrom.mp hy).1 hx
      refine (ih seen).imp_of_mem fun {y z} hy hz hyz => ?_
      rw [hnext y (hne y hy), hnext z (hne z hz)]
      omega
    rw [distinctFrom]
    split
    · next hx => exact hlater seen (List.contains_iff_mem.mp hx)
    · refine List.Pairwise.cons (fun y hy => ?_) (hlater (x :: seen) List.mem_cons_self)
      have hyx : y ≠ x := fun hyx => (mem_distinctFrom.mp hy).1 (hyx ▸ List.mem_cons_self)
      rw [List.idxOf_cons_self, hnext y hyx]
      omega

/-- Leaving out repetitions leaves each element where it comes first. -/
theorem firstOccurrences_distinct (xs : List α) : FirstOccurrences (distinct xs) xs where
  nodup := by
    refine (pairwise_idxOf_distinctFrom [] xs).imp fun {x y} hxy => ?_
    rintro rfl
    omega
  mem_iff _ := mem_distinct
  ordered := pairwise_idxOf_distinctFrom [] xs

/-- What is common to two lists. -/
theorem mem_filter_contains {ys : List α} : x ∈ xs.filter ys.contains ↔ x ∈ xs ∧ x ∈ ys := by
  rw [List.mem_filter, List.contains_iff_mem]

/-- What is in the first of two lists only. -/
theorem mem_filter_not_contains {ys : List α} :
    x ∈ xs.filter (!ys.contains ·) ↔ x ∈ xs ∧ x ∉ ys := by
  rw [List.mem_filter, Bool.not_eq_true', ← Bool.not_eq_true, List.contains_iff_mem]

end Lawful

namespace OrderedSet

section Lists

variable [BEq α] [LawfulBEq α] {xs ys : List α} {keep : α → Bool}

/-- The set of a list contains what the list does. -/
theorem contains_ofList_eq (xs : List α) : (ofList xs).contains = xs.contains := by
  funext x
  rw [Bool.eq_iff_iff, contains, ofList, List.contains_iff_mem, List.contains_iff_mem, mem_distinct]

/-- Elements may be left out of a list or of its set. -/
theorem filter_ofList (keep : α → Bool) (xs : List α) :
    (ofList xs).filter keep = ofList (xs.filter keep) := by
  rw [filter, ofList, ofList, ofList, ← distinct_filter, distinct_distinct]

/-- The common elements are those that the list of the first set has in common with the second. -/
theorem inter_ofList (xs ys : List α) :
    (ofList xs).inter (ofList ys) = ofList (xs.filter ys.contains) := by
  rw [inter, contains_ofList_eq, filter_ofList]

/-- The difference is the set of the elements of the first list that are not in the second. -/
theorem diff_ofList (xs ys : List α) :
    (ofList xs).diff (ofList ys) = ofList (xs.filter (!ys.contains ·)) := by
  rw [diff, contains_ofList_eq, filter_ofList]

/-- The union is the set of both lists, one after the other. -/
theorem union_ofList (xs ys : List α) :
    (ofList xs).union (ofList ys) = ofList (xs ++ ys) := by
  rw [union, ofList, ofList, ofList, ofList, distinct_distinct_append, distinct_append_distinct]

/-- The symmetric difference is the set of the elements of one list only, the first before the
second. -/
theorem symmDiff_ofList (xs ys : List α) : (ofList xs).symmDiff (ofList ys) =
    ofList (xs.filter (!ys.contains ·) ++ ys.filter (!xs.contains ·)) := by
  rw [symmDiff, diff_ofList, diff_ofList, union_ofList]

/-- One set is included in another if all elements of its list are in the list of the other. -/
theorem subset_ofList_iff : (ofList xs).subset (ofList ys) = true ↔ ∀ x ∈ xs, x ∈ ys := by
  rw [subset, contains_ofList_eq, List.all_eq_true]
  simp only [ofList, mem_distinct, List.contains_iff_mem]

/-- Two sets are equal if their lists have the same elements. -/
theorem equal_ofList_iff : (ofList xs).equal (ofList ys) = true ↔ ∀ x, x ∈ xs ↔ x ∈ ys := by
  rw [equal, Bool.and_eq_true, subset_ofList_iff, subset_ofList_iff, ← forall_and]
  exact forall_congr' fun x => iff_def.symm

end Lists

/-- The elements under other names. -/
def map [BEq α] [BEq β] (f : α → β) (s : OrderedSet α) : OrderedSet β := ⟨s.toList.map f⟩

section Names

variable [BEq α] [BEq β] {f : α → β} {keep : α → Bool} {keep' : β → Bool}
  (hf : ∀ x y, (f x == f y) = (x == y))

include hf

/-- The set of a list under other names is that of the list. -/
theorem ofList_map (xs : List α) : ofList (xs.map f) = (ofList xs).map f := by
  rw [ofList, ofList, map, distinct_map hf]

/-- An element is in a set if it is under its other name. -/
theorem contains_map (s : OrderedSet α) (x : α) : (s.map f).contains (f x) = s.contains x :=
  contains_map_of_beq hf s.toList x

/-- Elements are left out by their other names. -/
theorem filter_map (hkeep : ∀ x, keep' (f x) = keep x) (s : OrderedSet α) :
    (s.map f).filter keep' = (s.filter keep).map f := by
  have hkept : keep' ∘ f = keep := funext hkeep
  rw [filter, filter, ← ofList_map hf, map, List.filter_map, hkept]

/-- The intersection is the same under other names. -/
theorem inter_map (s t : OrderedSet α) : (s.map f).inter (t.map f) = (s.inter t).map f :=
  filter_map hf (contains_map hf t) s

/-- The difference is the same under other names. -/
theorem diff_map (s t : OrderedSet α) : (s.map f).diff (t.map f) = (s.diff t).map f :=
  filter_map hf (fun x => congrArg (!·) (contains_map hf t x)) s

/-- The union is the same under other names. -/
theorem union_map (s t : OrderedSet α) : (s.map f).union (t.map f) = (s.union t).map f := by
  rw [union, union, ← ofList_map hf, List.map_append, map, map]

/-- The symmetric difference is the same under other names. -/
theorem symmDiff_map (s t : OrderedSet α) :
    (s.map f).symmDiff (t.map f) = (s.symmDiff t).map f := by
  rw [symmDiff, diff_map hf, diff_map hf, union_map hf, symmDiff]

/-- Inclusion is a matter of the other names. -/
theorem subset_map (s t : OrderedSet α) : (s.map f).subset (t.map f) = s.subset t := by
  have hfound : (t.map f).contains ∘ f = t.contains := funext (contains_map hf t)
  rw [subset, subset, map, List.all_map, hfound]

/-- Equality is a matter of the other names. -/
theorem equal_map (s t : OrderedSet α) : (s.map f).equal (t.map f) = s.equal t := by
  rw [equal, equal, subset_map hf, subset_map hf]

end Names

end OrderedSet

end PhraseStructure
