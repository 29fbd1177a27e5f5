import Mathlib.Data.List.Basic
import Mathlib.Tactic.Tauto
import PhraseStructure.OrderedSet

/-!
# What is in an ordered set

Of several equal elements the first one is kept, so that an ordered set holds elements of the list
it was made of (`mem_of_mem_distinct`), and holds an equal one for each of them
(`exists_mem_distinct`), namely the first (`mem_distinct_iff`). No two elements of it are equal
(`pairwise_distinctFrom`), so that parts of it can be counted apart
(`OrderedSet.size_filter_add_size_filter_not`).
-/

namespace PhraseStructure

variable {α : Type} [BEq α] {seen xs : List α} {x : α}

/-- The elements that are left were there before. -/
theorem mem_of_mem_distinctFrom (h : x ∈ distinctFrom seen xs) : x ∈ xs := by
  induction xs generalizing seen with
  | nil => exact h
  | cons y ys ih =>
    rw [distinctFrom] at h
    split at h
    · exact List.mem_cons_of_mem y (ih h)
    · rcases List.mem_cons.mp h with rfl | hmem
      · exact List.mem_cons_self
      · exact List.mem_cons_of_mem y (ih hmem)

/-- Leaving out repetitions brings no new element. -/
theorem mem_of_mem_distinct (h : x ∈ distinct xs) : x ∈ xs := mem_of_mem_distinctFrom h

/-- Elements that were all seen before are left out. -/
theorem distinctFrom_append_of_seen (h : ∀ x ∈ xs, seen.contains x = true) (ys : List α) :
    distinctFrom seen (xs ++ ys) = distinctFrom seen ys := by
  induction xs with
  | nil => rfl
  | cons x xs ih =>
    rw [List.forall_mem_cons] at h
    rw [List.cons_append, distinctFrom, if_pos h.1, ih h.2]

section Names

variable {β : Type} [BEq β] {f : α → β}

/-- Under other names that keep equal what is equal, the same elements are found. -/
theorem contains_map_of_beq (hf : ∀ x y, (f x == f y) = (x == y)) (xs : List α) (x : α) :
    (xs.map f).contains (f x) = xs.contains x := by
  induction xs with
  | nil => rfl
  | cons y ys ih => rw [List.map_cons, List.contains_cons, List.contains_cons, hf, ih]

/-- Elements may be changed before or after if the same ones stay equal. -/
theorem distinctFrom_map (hf : ∀ x y, (f x == f y) = (x == y)) (seen xs : List α) :
    distinctFrom (seen.map f) (xs.map f) = (distinctFrom seen xs).map f := by
  induction xs generalizing seen with
  | nil => rfl
  | cons x xs ih =>
    rw [List.map_cons, distinctFrom, distinctFrom, contains_map_of_beq hf]
    split
    · exact ih seen
    · rw [List.map_cons, ← ih (x :: seen), List.map_cons]

/-- Under other names that tell the elements apart, the same ones are left. -/
theorem distinct_map (hf : ∀ x y, (f x == f y) = (x == y)) (xs : List α) :
    distinct (xs.map f) = (distinct xs).map f := distinctFrom_map hf [] xs

end Names

variable [EquivBEq α]

/-- An element is left out only if an equal one came before. -/
theorem exists_mem_distinctFrom (seen : List α) (h : x ∈ xs) :
    ∃ y ∈ seen ++ distinctFrom seen xs, (y == x) = true := by
  induction xs generalizing seen with
  | nil => simp at h
  | cons z zs ih =>
    rw [distinctFrom]
    split
    · next hseen =>
      rcases List.mem_cons.mp h with rfl | hmem
      · obtain ⟨y, hy, heq⟩ := List.contains_iff_exists_mem_beq.mp hseen
        exact ⟨y, List.mem_append_left _ hy, BEq.symm heq⟩
      · exact ih seen hmem
    · rcases List.mem_cons.mp h with rfl | hmem
      · exact ⟨x, by simp, BEq.rfl⟩
      · obtain ⟨y, hy, heq⟩ := ih (z :: seen) hmem
        refine ⟨y, ?_, heq⟩
        simp only [List.mem_append, List.mem_cons] at hy ⊢
        tauto

/-- For every element, one that equals it is left. -/
theorem exists_mem_distinct (h : x ∈ xs) : ∃ y ∈ distinct xs, (y == x) = true := by
  simpa [distinct] using exists_mem_distinctFrom [] h

/-- What is kept has not been seen, and is the first of the elements that equal it. -/
theorem mem_distinctFrom_iff : x ∈ distinctFrom seen xs ↔
    seen.contains x = false ∧ xs.find? (· == x) = some x := by
  induction xs generalizing seen with
  | nil => simp [distinctFrom]
  | cons y ys ih =>
    have hseen : (y == x) = true → seen.contains y = seen.contains x := by
      intro hyx
      rw [Bool.eq_iff_iff, List.contains_iff_exists_mem_beq, List.contains_iff_exists_mem_beq]
      exact exists_congr fun z => and_congr_right fun _ => by rw [BEq.congr_left hyx]
    rw [distinctFrom]
    by_cases hy : seen.contains y = true
    · rw [if_pos hy, ih, List.find?_cons]
      by_cases hyx : (y == x) = true
      · simp [← hseen hyx, hy]
      · rw [Bool.eq_false_iff.mpr hyx]
    · rw [if_neg hy, List.mem_cons, ih, List.find?_cons, List.contains_cons]
      by_cases hyx : (y == x) = true
      · have hxy : (x == y) = true := BEq.symm hyx
        simp only [hyx, hxy, Bool.true_or, Option.some.injEq, ← hseen hyx]
        simp [hy, eq_comm]
      · have hxy : (x == y) = false := Bool.eq_false_iff.mpr fun h => hyx (BEq.symm h)
        have hne : x ≠ y := fun h => hyx (h ▸ BEq.rfl)
        simp [hyx, hxy, hne]

/-- The first of several equal elements is kept. -/
theorem mem_distinct_iff : x ∈ distinct xs ↔ xs.find? (· == x) = some x := by
  simp [distinct, mem_distinctFrom_iff]

/-- What is kept differs from everything that is kept before it. -/
theorem pairwise_distinctFrom (seen xs : List α) :
    (distinctFrom seen xs).Pairwise fun x y => (x == y) = false := by
  induction xs generalizing seen with
  | nil => exact .nil
  | cons x xs ih =>
    rw [distinctFrom]
    split
    · exact ih seen
    · refine .cons (fun y hy => ?_) (ih (x :: seen))
      have hnew := (mem_distinctFrom_iff.mp hy).1
      rw [List.contains_cons, Bool.or_eq_false_iff, BEq.comm] at hnew
      exact hnew.1

/-- Of elements that differ none is left out. -/
theorem distinctFrom_of_pairwise (hdiffer : xs.Pairwise fun x y => (x == y) = false)
    (hseen : ∀ x ∈ xs, seen.contains x = false) : distinctFrom seen xs = xs := by
  induction xs generalizing seen with
  | nil => rfl
  | cons x xs ih =>
    obtain ⟨hfirst, hrest⟩ := List.pairwise_cons.mp hdiffer
    rw [List.forall_mem_cons] at hseen
    have hlater : ∀ y ∈ xs, (x :: seen).contains y = false := by
      intro y hy
      rw [List.contains_cons, BEq.comm, hfirst y hy, hseen.2 y hy, Bool.or_false]
    rw [distinctFrom, hseen.1, if_neg Bool.false_ne_true, ih hrest hlater]

namespace OrderedSet

/-- Every element of a set either satisfies a condition or does not. -/
theorem size_filter_add_size_filter_not (keep : α → Bool) (xs : List α) :
    ((ofList xs).filter keep).size + ((ofList xs).filter (!keep ·)).size = (ofList xs).size := by
  have hpart : ∀ keep : α → Bool,
      ((ofList xs).filter keep).size = ((distinct xs).filter keep).length := by
    intro keep
    have hdiffer := (pairwise_distinctFrom [] xs).filter keep
    rw [size, filter, ofList, ofList, distinct, distinct, distinctFrom_of_pairwise hdiffer]
    exact fun _ _ => rfl
  rw [hpart, hpart]
  exact (List.length_eq_length_filter_add keep).symm

/-- A set holds what equals an element of the list it was made of. -/
theorem contains_ofList : (ofList xs).contains x = true ↔ ∃ y ∈ xs, (y == x) = true := by
  rw [contains, ofList, List.contains_iff_exists_mem_beq]
  constructor
  · rintro ⟨y, hy, heq⟩
    exact ⟨y, mem_of_mem_distinct hy, BEq.symm heq⟩
  · rintro ⟨y, hy, heq⟩
    obtain ⟨z, hz, hsame⟩ := exists_mem_distinct hy
    exact ⟨z, hz, BEq.symm (BEq.trans hsame heq)⟩

/-- A set whose elements satisfy a condition holds what equals an element of the list the set was
made of, if the first such element satisfies the condition. -/
theorem contains_filter_ofList {keep : α → Bool} : ((ofList xs).filter keep).contains x = true ↔
    ∃ y, xs.find? (· == x) = some y ∧ keep y = true := by
  have hfirst : ∀ {y}, (y == x) = true → xs.find? (· == y) = xs.find? (· == x) := by
    intro y hyx
    congr 1
    funext z
    exact BEq.congr_right hyx
  rw [filter, contains_ofList]
  constructor
  · rintro ⟨y, hy, hyx⟩
    obtain ⟨hmem, hkeep⟩ := List.mem_filter.mp hy
    exact ⟨y, hfirst hyx ▸ mem_distinct_iff.mp hmem, hkeep⟩
  · rintro ⟨y, hfound, hkeep⟩
    have hyx : (y == x) = true := by simpa using List.find?_some hfound
    have hmem : y ∈ distinct xs := mem_distinct_iff.mpr (by rw [hfirst hyx, hfound])
    exact ⟨y, List.mem_filter.mpr ⟨hmem, hkeep⟩, hyx⟩

end OrderedSet

end PhraseStructure
