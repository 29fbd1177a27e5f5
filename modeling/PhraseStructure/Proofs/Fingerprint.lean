import Mathlib.Data.List.Forall2
import Mathlib.Data.List.Perm.Basic
import PhraseStructure.Datum.Hash
import PhraseStructure.Datum.Set
import PhraseStructure.Proofs.Outcome

/-!
# Fingerprints and hashes of sets

A set is found by the fingerprints of its elements, and hashed to a word made of theirs. Both are
made so that the order of the elements does not matter: of the fingerprints those are left that
occur an odd number of times (`Fingerprint.count_cancelPairs`), and words are mixed by an operation
in which they can change places (`mixInAnyOrder_perm`).
-/

namespace PhraseStructure

variable {α β : Type}

namespace Fingerprint

variable {f : Fingerprint} {fs gs : List Fingerprint}

mutual

/-- The comparison of fingerprints decides whether they are equal. -/
theorem same_iff (f g : Fingerprint) : same f g = true ↔ f = g := by
  cases f with
  | tuple fs =>
    cases g with
    | tuple gs => rw [same, sameAll_iff fs gs, tuple.injEq]
    | _ => simp [same]
  | _ => cases g <;> simp [same]

/-- The comparison of sequences of fingerprints decides whether they are equal. -/
theorem sameAll_iff (fs gs : List Fingerprint) : sameAll fs gs = true ↔ fs = gs := by
  cases fs with
  | nil => cases gs <;> simp [sameAll]
  | cons f fs =>
    cases gs with
    | nil => simp [sameAll]
    | cons g gs =>
      rw [sameAll, Bool.and_eq_true, same_iff f g, sameAll_iff fs gs, List.cons.injEq]

end

instance : LawfulBEq Fingerprint where
  eq_of_beq h := (same_iff _ _).mp h
  rfl := (same_iff _ _).mpr rfl

/-- When pairs cancel out, a fingerprint is left exactly if it occurs an odd number of times. -/
theorem count_cancelPairs (f : Fingerprint) (fs : List Fingerprint) :
    (cancelPairs fs).count f = fs.count f % 2 := by
  induction fs with
  | nil => rfl
  | cons g fs ih =>
    rw [cancelPairs, List.count_cons]
    by_cases hgf : g = f
    · subst hgf
      rw [beq_self_eq_true, if_pos rfl]
      split
      · next hleft =>
        have hpos : 0 < (cancelPairs fs).count g :=
          List.count_pos_iff.mpr (List.contains_iff_mem.mp hleft)
        rw [List.count_erase_self]
        omega
      · next hnone =>
        have hzero : (cancelPairs fs).count g = 0 :=
          List.count_eq_zero.mpr fun hleft => hnone (List.contains_iff_mem.mpr hleft)
        rw [List.count_cons_self]
        omega
    · have hne : (g == f) = false := beq_eq_false_iff_ne.mpr hgf
      rw [hne, if_neg Bool.false_ne_true, Nat.add_zero]
      split
      · rw [List.count_erase_of_ne (Ne.symm hgf), ih]
      · rw [List.count_cons_of_ne hgf, ih]

/-- The order of the elements does not matter for the fingerprint of a set. -/
theorem sameOfAll_of_perm (h : fs.Perm gs) : sameOfAll fs gs = true := by
  have hleft : (cancelPairs fs).Perm (cancelPairs gs) := by
    refine List.perm_iff_count.mpr fun f => ?_
    rw [count_cancelPairs, count_cancelPairs, h.count_eq]
  rw [sameOfAll, h.length_eq, beq_self_eq_true, Bool.true_and]
  exact List.isPerm_iff.mpr hleft

/-- The fingerprints of several values are those of each of them, if all have one. -/
theorem ofAll?_eq_mapM (xs : List Datum) : ofAll? xs = xs.mapM ofDatum? := by
  induction xs with
  | nil => rfl
  | cons x xs ih =>
    rw [ofAll?, ih, List.mapM_cons]

/-- The words of several fingerprints are those of each of them, if all have one. -/
theorem words?_eq_mapM (fs : List Fingerprint) : words? fs = fs.mapM word? := by
  induction fs with
  | nil => rfl
  | cons f fs ih =>
    rw [words?, ih, List.mapM_cons]

end Fingerprint

/-- Each element has a result. -/
theorem mapM_eq_some_iff {f : α → Option β} {xs : List α} {ys : List β} :
    xs.mapM f = some ys ↔ List.Forall₂ (fun x y => f x = some y) xs ys := by
  induction xs generalizing ys with
  | nil => simp [eq_comm]
  | cons x xs ih =>
    simp only [List.mapM_cons, List.forall₂_cons_left_iff, Option.bind_eq_bind,
      Option.bind_eq_some_iff, ih, Option.pure_def, Option.some.injEq]
    constructor
    · rintro ⟨y, hy, ys, hys, rfl⟩
      exact ⟨y, ys, hy, hys, rfl⟩
    · rintro ⟨y, ys, hy, hys, rfl⟩
      exact ⟨y, hy, ys, hys, rfl⟩

/-- If every element has a result, they have the same results in another order. -/
theorem exists_mapM_of_perm {f : α → Option β} {xs xs' : List α} {ys : List β} (h : xs.Perm xs')
    (hys : xs.mapM f = some ys) : ∃ ys', xs'.mapM f = some ys' ∧ ys'.Perm ys := by
  obtain ⟨ys', hys', hperm⟩ := List.perm_comp_forall₂ h.symm (mapM_eq_some_iff.mp hys)
  exact ⟨ys', mapM_eq_some_iff.mpr hys', hperm⟩

/-- Words that are mixed in any order can change places. -/
theorem mixInAnyOrder_perm {words words' : List UInt64} (h : words.Perm words') :
    mixInAnyOrder words = mixInAnyOrder words' := by
  have hmixed : words.foldl (fun sum w => sum ^^^ scatter w) 0 =
      words'.foldl (fun sum w => sum ^^^ scatter w) 0 := by
    refine h.foldl_eq' (fun v _ w _ sum => ?_) 0
    rw [UInt64.xor_assoc, UInt64.xor_comm (scatter v), UInt64.xor_assoc]
  simp only [mixInAnyOrder, hmixed, h.length_eq]

/-- The word that the elements of a set are mixed to does not depend on their order. -/
theorem mixed_of_perm {xs ys : List Datum} {mixed : UInt64} (h : xs.Perm ys)
    (hxs : (Fingerprint.ofAll? xs >>= Fingerprint.words?).map mixInAnyOrder = some mixed) :
    (Fingerprint.ofAll? ys >>= Fingerprint.words?).map mixInAnyOrder = some mixed := by
  obtain ⟨words, hwords, hmixed⟩ := Option.map_eq_some_iff.mp hxs
  obtain ⟨fs, hfs, hwords⟩ := Option.bind_eq_some_iff.mp hwords
  rw [Fingerprint.ofAll?_eq_mapM] at hfs
  rw [Fingerprint.words?_eq_mapM] at hwords
  obtain ⟨gs, hgs, hfgs⟩ := exists_mapM_of_perm h hfs
  obtain ⟨words', hwords', hperm⟩ := exists_mapM_of_perm hfgs.symm hwords
  rw [← Fingerprint.ofAll?_eq_mapM] at hgs
  rw [← Fingerprint.words?_eq_mapM] at hwords'
  refine Option.map_eq_some_iff.mpr ⟨words', Option.bind_eq_some_iff.mpr ⟨gs, hgs, hwords'⟩, ?_⟩
  rw [mixInAnyOrder_perm hperm, hmixed]

/-- Sets with the same elements have the same hash, if it is known. -/
theorem Datum.hash_set_of_perm {xs ys : List Datum} (h : xs.Perm ys) :
    (Datum.set xs).hash = (Datum.set ys).hash := by
  have hmixed : (Fingerprint.ofAll? xs >>= Fingerprint.words?).map mixInAnyOrder =
      (Fingerprint.ofAll? ys >>= Fingerprint.words?).map mixInAnyOrder :=
    Option.ext fun _ => ⟨mixed_of_perm h, mixed_of_perm h.symm⟩
  have hhash : ∀ zs : List Datum, (Datum.set zs).hash =
      .ok (((Fingerprint.ofAll? zs >>= Fingerprint.words?).map mixInAnyOrder).map wordInt) := by
    intro zs
    simp only [Datum.hash, Option.map_map, Function.comp_def]
  rw [hhash, hhash, hmixed]

/-- Sets with the same elements have the same fingerprint. -/
theorem DatumSet.sameFingerprint_of_perm {s t : DatumSet} {fs : List Fingerprint}
    (h : s.toList.Perm t.toList) (hfs : Fingerprint.ofAll? s.toList = some fs) :
    s.sameFingerprint t = true := by
  rw [Fingerprint.ofAll?_eq_mapM] at hfs
  obtain ⟨gs, hgs, hfgs⟩ := exists_mapM_of_perm h hfs
  rw [← Fingerprint.ofAll?_eq_mapM] at hfs hgs
  simp only [sameFingerprint, hfs, hgs]
  exact Fingerprint.sameOfAll_of_perm hfgs.symm

end PhraseStructure
