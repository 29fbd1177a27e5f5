import Mathlib.Data.List.Forall2
import Mathlib.Data.List.Perm.Basic
import PhraseStructure.Fault

/-!
# Outcomes of several steps

Operations that may fail are put together of steps that may fail. What succeeds as a whole succeeds
step by step (`bind_eq_ok_iff`), also along a list (`mapM_eq_ok_iff`).
-/

namespace PhraseStructure

variable {α β : Type}

/-- Two steps succeed if the first does, and the second with what it returns. -/
theorem bind_eq_ok_iff {x : Except Fault α} {f : α → Except Fault β} {b : β} :
    x >>= f = .ok b ↔ ∃ a, x = .ok a ∧ f a = .ok b := by
  cases x with
  | error fault =>
    constructor
    · rintro ⟨⟩
    · rintro ⟨_, ⟨⟩, _⟩
  | ok a =>
    constructor
    · intro h
      exact ⟨a, rfl, h⟩
    · rintro ⟨_, ⟨⟩, h⟩
      exact h

/-- Steps fail where the first of them fails that does. -/
theorem bind_eq_error_iff {x : Except Fault α} {f : α → Except Fault β} {fault : Fault} :
    x >>= f = .error fault ↔ x = .error fault ∨ ∃ a, x = .ok a ∧ f a = .error fault := by
  cases x with
  | error fault' =>
    constructor
    · rintro ⟨⟩
      exact .inl rfl
    · rintro (⟨⟨⟩⟩ | ⟨_, ⟨⟩, _⟩)
      rfl
  | ok a =>
    constructor
    · intro h
      exact .inr ⟨a, rfl, h⟩
    · rintro (⟨⟨⟩⟩ | ⟨_, ⟨⟩, h⟩)
      exact h

/-- What follows a step need only agree on what the step returns. -/
theorem bind_congr_of_ok {x : Except Fault α} {f g : α → Except Fault β}
    (h : ∀ a, x = .ok a → f a = g a) : x >>= f = x >>= g := by
  cases x with
  | error fault => rfl
  | ok a => exact h a rfl

/-- A value that is there was returned. -/
theorem eq_ok_of_toOption {x : Except Fault α} {a : α} (h : x.toOption = some a) : x = .ok a := by
  cases x with
  | error fault => cases h
  | ok a' => rw [Option.some.inj h]

/-- Each element has an outcome. -/
theorem mapM_eq_ok_iff {f : α → Except Fault β} {xs : List α} {ys : List β} :
    xs.mapM f = .ok ys ↔ List.Forall₂ (fun x y => f x = .ok y) xs ys := by
  induction xs generalizing ys with
  | nil =>
    rw [List.mapM_nil, List.forall₂_nil_left_iff]
    constructor
    · rintro ⟨⟩
      rfl
    · rintro rfl
      rfl
  | cons x xs ih =>
    rw [List.mapM_cons, bind_eq_ok_iff, List.forall₂_cons_left_iff]
    constructor
    · rintro ⟨y, hy, h⟩
      obtain ⟨rest, hrest, heq⟩ := bind_eq_ok_iff.mp h
      cases heq
      exact ⟨y, rest, hy, ih.mp hrest, rfl⟩
    · rintro ⟨y, rest, hy, hrest, rfl⟩
      exact ⟨y, hy, bind_eq_ok_iff.mpr ⟨rest, ih.mpr hrest, rfl⟩⟩

/-- What several steps returned was returned by one of them. -/
theorem exists_of_mem_mapM {f : α → Except Fault β} {xs : List α} {ys : List β} {y : β}
    (h : xs.mapM f = .ok ys) (hy : y ∈ ys) : ∃ x ∈ xs, f x = .ok y := by
  have hsteps := mapM_eq_ok_iff.mp h
  clear h
  induction hsteps with
  | nil => simp at hy
  | cons hx _ ih =>
    rcases List.mem_cons.mp hy with rfl | hmem
    · exact ⟨_, List.mem_cons_self, hx⟩
    · obtain ⟨x, hmemx, hfx⟩ := ih hmem
      exact ⟨x, List.mem_cons_of_mem _ hmemx, hfx⟩

/-- What several steps fail with, one of them failed with. -/
theorem exists_of_mapM_eq_error {f : α → Except Fault β} {xs : List α} {fault : Fault}
    (h : xs.mapM f = .error fault) : ∃ x ∈ xs, f x = .error fault := by
  induction xs with
  | nil => cases h
  | cons x xs ih =>
    rw [List.mapM_cons, bind_eq_error_iff] at h
    rcases h with hx | ⟨y, -, h⟩
    · exact ⟨x, List.mem_cons_self, hx⟩
    · rcases bind_eq_error_iff.mp h with hrest | ⟨ys, -, hys⟩
      · obtain ⟨x', hmem, hx'⟩ := ih hrest
        exact ⟨x', List.mem_cons_of_mem x hmem, hx'⟩
      · cases hys

/-- A list of outcomes succeeds when each of them does. -/
theorem mapM_id_eq_ok_iff {outcomes : List (Except Fault α)} {xs : List α} :
    outcomes.mapM id = .ok xs ↔ outcomes = xs.map .ok := by
  rw [mapM_eq_ok_iff, ← List.forall₂_eq_eq_eq, List.forall₂_map_right_iff]
  rfl

/-- A list of outcomes fails with its first failure, and those before it succeed. -/
theorem exists_of_mapM_id_eq_error {outcomes : List (Except Fault α)} {fault : Fault}
    (h : outcomes.mapM id = .error fault) :
    ∃ (xs : List α) (rest : List (Except Fault α)),
      outcomes = xs.map .ok ++ .error fault :: rest := by
  induction outcomes with
  | nil => cases h
  | cons outcome outcomes ih =>
    rw [List.mapM_cons, bind_eq_error_iff] at h
    rcases h with hfirst | ⟨x, hfirst, h⟩
    · obtain rfl : outcome = .error fault := hfirst
      exact ⟨[], outcomes, rfl⟩
    · obtain rfl : outcome = .ok x := hfirst
      rcases bind_eq_error_iff.mp h with hlater | ⟨xs, -, hxs⟩
      · obtain ⟨xs, rest, rfl⟩ := ih hlater
        exact ⟨x :: xs, rest, rfl⟩
      · cases hxs

/-- Steps that cannot fail have outcomes. -/
theorem exists_map_eq_ok {f : α → Except Fault β} {xs : List α}
    (h : ∀ x ∈ xs, ∃ y, f x = .ok y) : ∃ ys : List β, xs.map f = ys.map .ok := by
  induction xs with
  | nil => exact ⟨[], rfl⟩
  | cons x xs ih =>
    rw [List.forall_mem_cons] at h
    obtain ⟨y, hy⟩ := h.1
    obtain ⟨ys, hys⟩ := ih h.2
    exact ⟨y :: ys, by rw [List.map_cons, List.map_cons, hy, hys]⟩

/-- Outcomes that all succeed do so in any order. -/
theorem exists_mapM_id_of_perm {outcomes outcomes' : List (Except Fault α)} {xs : List α}
    (hperm : outcomes.Perm outcomes') (h : outcomes.mapM id = .ok xs) :
    ∃ ys, outcomes'.mapM id = .ok ys ∧ xs.Perm ys := by
  have houtcomes : outcomes = xs.map .ok := mapM_id_eq_ok_iff.mp h
  have hall : ∀ outcome ∈ outcomes', ∃ x, id outcome = .ok x := by
    intro outcome hmem
    rw [← hperm.mem_iff, houtcomes] at hmem
    obtain ⟨x, -, hx⟩ := List.mem_map.mp hmem
    exact ⟨x, hx.symm⟩
  obtain ⟨ys, hys⟩ := exists_map_eq_ok hall
  rw [List.map_id] at hys
  have hinjective : Function.Injective (Except.ok : α → Except Fault α) :=
    fun _ _ => Except.ok.inj
  refine ⟨ys, mapM_id_eq_ok_iff.mpr hys, (List.map_perm_map_iff hinjective).mp ?_⟩
  rwa [← houtcomes, ← hys]

/-- Elements are selected in order when it is known of each whether it is. -/
theorem filterM_eq_ok {f : α → Except Fault Bool} {keep : α → Bool} {xs : List α}
    (h : ∀ x ∈ xs, f x = .ok (keep x)) : xs.filterM f = .ok (xs.filter keep) := by
  have hselected : ∀ selected,
      xs.filterAuxM f selected = .ok ((xs.filter keep).reverse ++ selected) := by
    induction xs with
    | nil => exact fun _ => rfl
    | cons x xs ih =>
      rw [List.forall_mem_cons] at h
      intro selected
      rw [List.filterAuxM, h.1, List.filter_cons]
      change List.filterAuxM f xs _ = _
      rw [ih h.2]
      cases keep x with
      | false => rfl
      | true => rw [if_pos rfl, List.reverse_cons, List.append_assoc]; rfl
  rw [List.filterM, hselected]
  change Except.ok _ = _
  rw [List.append_nil, List.reverse_reverse]

end PhraseStructure
