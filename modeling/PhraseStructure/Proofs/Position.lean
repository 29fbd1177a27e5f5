import PhraseStructure.Proofs.Outcome
import PhraseStructure.Position

/-!
# Indices counted from either end

An index names a place in a sequence if it lies between the two ends, where a negative one is
counted from the behind one (`resolveIndex_eq_some_iff`). Looking up, replacing and leaving out the
element with an index succeed for these indices only, and fail with the same fault otherwise. What
an edit leaves in a sequence was there before or was given to it.
-/

namespace PhraseStructure

section Resolving

variable {n k : Nat} {i : Int}

/-- An index names a place if it is in range, counted from the end when it is negative. -/
theorem resolveIndex_eq_some_iff : resolveIndex n i = some k ↔
    (-(n : Int) ≤ i ∧ i < n) ∧ (k : Int) = if i < 0 then i + n else i := by
  simp only [resolveIndex, Option.ite_none_right_eq_some, Option.some.injEq]
  split <;> omega

/-- An index names no place if it is out of range. -/
theorem resolveIndex_eq_none_iff : resolveIndex n i = none ↔ ¬(-(n : Int) ≤ i ∧ i < n) := by
  simp only [resolveIndex, ite_eq_right_iff, reduceCtorEq, imp_false]
  split <;> omega

/-- A place is its own index. -/
theorem resolveIndex_natCast (h : k < n) : resolveIndex n (k : Int) = some k := by
  rw [resolveIndex_eq_some_iff]
  omega

end Resolving

section Elements

variable {α : Type} {xs : List α} {x : α} {i : Int} {fault : Fault}

/-- The element at an index is the one at the place that it names. -/
theorem elementAt_eq_ok_iff :
    elementAt xs i = .ok x ↔ ∃ k, resolveIndex xs.length i = some k ∧ xs[k]? = some x := by
  rw [elementAt]
  cases hk : resolveIndex xs.length i with
  | none => simp
  | some k =>
    cases hx : xs[k]? with
    | none => simp [hx]
    | some y => simp [hx]

/-- An element is missing only because the index is out of range. -/
theorem elementAt_eq_error (h : elementAt xs i = .error fault) : fault = .outOfRange := by
  rw [elementAt] at h
  split at h <;> cases h
  rfl

/-- At the index of a place, there is what stands there, or the index is out of range. -/
theorem elementAt_natCast_eq (xs : List α) (k : Nat) :
    elementAt xs (k : Int) = xs[k]?.elim (.error .outOfRange) .ok := by
  rw [elementAt]
  by_cases hk : k < xs.length
  · simp [resolveIndex_natCast hk, hk]
  · have hnone : resolveIndex xs.length (k : Int) = none := by
      rw [resolveIndex_eq_none_iff]
      omega
    simp [hnone, hk]

/-- An index of another place finds the same element after a replacement. -/
theorem elementAt_set_of_ne {k : Nat} (h : resolveIndex xs.length i ≠ some k) :
    elementAt (xs.set k x) i = elementAt xs i := by
  rw [elementAt, elementAt, List.length_set]
  cases hl : resolveIndex xs.length i with
  | none => rfl
  | some l =>
    have hne : k ≠ l := by
      rintro rfl
      exact h hl
    simp [List.getElem?_set_ne hne]

/-- An index of the place finds what was put there. -/
theorem elementAt_set_self {k : Nat} (h : resolveIndex xs.length i = some k) :
    elementAt (xs.set k x) i = .ok x := by
  have hlt := lt_of_resolveIndex h
  rw [elementAt, List.length_set, h]
  simp [hlt]

/-- Without the element with place `k`, the later ones have the place of the element before. -/
theorem elementAt_eraseIdx (xs : List α) (k l : Nat) :
    elementAt (xs.eraseIdx k) (l : Int) =
      elementAt xs ((if l < k then l else l + 1 : Nat) : Int) := by
  rw [elementAt_natCast_eq, elementAt_natCast_eq, List.getElem?_eraseIdx]
  split <;> rfl

/-- The element at an index is changed with the others. -/
theorem elementAt_map {β : Type} (f : α → β) (xs : List α) (i : Int) :
    elementAt (xs.map f) i = (elementAt xs i).map f := by
  rw [elementAt, elementAt, List.length_map]
  cases resolveIndex xs.length i with
  | none => rfl
  | some k => cases hx : xs[k]? <;> simp [hx] <;> rfl

/-- What is found at an index of a changed list comes from the element that was there. -/
theorem elementAt_map_eq_ok_iff {β : Type} {f : α → β} {y : β} :
    elementAt (xs.map f) i = .ok y ↔ ∃ x, elementAt xs i = .ok x ∧ f x = y := by
  rw [elementAt_map]
  cases elementAt xs i <;> simp [Except.map]

/-- An element is replaced at the place that the index names. -/
theorem replaceAt_eq_ok_iff {ys : List α} :
    replaceAt xs i x = .ok ys ↔ ∃ k, resolveIndex xs.length i = some k ∧ ys = xs.set k x := by
  rw [replaceAt]
  cases resolveIndex xs.length i <;> simp [eq_comm]

/-- A replacement fails only because the index is out of range. -/
theorem replaceAt_eq_error (h : replaceAt xs i x = .error fault) : fault = .outOfRange := by
  rw [replaceAt] at h
  split at h <;> cases h
  rfl

/-- An element is erased at the place that the index names. -/
theorem eraseAt_eq_ok_iff {ys : List α} :
    eraseAt xs i = .ok ys ↔ ∃ k, resolveIndex xs.length i = some k ∧ ys = xs.eraseIdx k := by
  rw [eraseAt]
  cases resolveIndex xs.length i <;> simp [eq_comm]

/-- An erasure fails only because the index is out of range. -/
theorem eraseAt_eq_error (h : eraseAt xs i = .error fault) : fault = .outOfRange := by
  rw [eraseAt] at h
  split at h <;> cases h
  rfl

end Elements

section Members

variable {α : Type} {xs ys values : List α} {x y : α} {i : Int}

/-! What comes out of a sequence was in it, or was put there. -/

/-- What is found at an index is an element. -/
theorem mem_of_elementAt (h : elementAt xs i = .ok x) : x ∈ xs := by
  obtain ⟨k, -, hk⟩ := elementAt_eq_ok_iff.mp h
  exact List.mem_of_getElem? hk

/-- After a replacement there is one new element at most. -/
theorem mem_of_mem_replaceAt (h : replaceAt xs i x = .ok ys) (hy : y ∈ ys) : y = x ∨ y ∈ xs := by
  obtain ⟨k, -, rfl⟩ := replaceAt_eq_ok_iff.mp h
  exact (List.mem_or_eq_of_mem_set hy).symm

/-- After an erasure there is no new element. -/
theorem mem_of_mem_eraseAt (h : eraseAt xs i = .ok ys) (hy : y ∈ ys) : y ∈ xs := by
  obtain ⟨k, -, rfl⟩ := eraseAt_eq_ok_iff.mp h
  exact List.mem_of_mem_eraseIdx hy

/-- After an insertion there is one new element at most. -/
theorem mem_of_mem_insertAt (h : y ∈ insertAt xs i x) : y = x ∨ y ∈ xs := by
  simp only [insertAt, List.mem_append, List.mem_cons] at h
  rcases h with h | h | h
  · exact .inr (List.mem_of_mem_take h)
  · exact .inl h
  · exact .inr (List.mem_of_mem_drop h)

/-- The elements are old ones, or they were written at some place. -/
theorem Slice.mem_of_mem_writeAt {writes : List (Nat × α)} (h : y ∈ writeAt xs writes) :
    y ∈ xs ∨ ∃ k, (k, y) ∈ writes := by
  induction writes generalizing xs with
  | nil => exact .inl h
  | cons write writes ih =>
    obtain ⟨k, x⟩ := write
    rcases ih h with h | ⟨l, h⟩
    · rcases List.mem_or_eq_of_mem_set h with h | rfl
      · exact .inl h
      · exact .inr ⟨k, List.mem_cons_self⟩
    · exact .inr ⟨l, List.mem_cons_of_mem _ h⟩

/-- After values are put in the place of a slice, the elements are old ones or among the values. -/
theorem Slice.mem_of_mem_assign {slice : Slice} (h : slice.assign xs values = .ok ys)
    (hy : y ∈ ys) : y ∈ xs ∨ y ∈ values := by
  simp only [assign] at h
  split at h
  · cases h
    simp only [List.mem_append] at hy
    rcases hy with (hy | hy) | hy
    · exact .inl (List.mem_of_mem_take hy)
    · exact .inr hy
    · exact .inl (List.mem_of_mem_drop hy)
  · split at h
    · cases h
      rcases mem_of_mem_writeAt hy with hy | ⟨k, hy⟩
      · exact .inl hy
      · exact .inr (List.of_mem_zip hy).2
    · cases h

/-- After a slice is erased there is no new element. -/
theorem Slice.mem_of_mem_erase {slice : Slice} (h : y ∈ slice.erase xs) : y ∈ xs := by
  simp only [erase, List.mem_map, List.mem_filter] at h
  obtain ⟨⟨y, k⟩, ⟨hmem, -⟩, rfl⟩ := h
  exact (List.mem_zipIdx' hmem).2 ▸ List.getElem_mem _

end Members

end PhraseStructure
