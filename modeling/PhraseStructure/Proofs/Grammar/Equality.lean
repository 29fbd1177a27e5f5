import Mathlib.Data.List.Perm.Subperm
import PhraseStructure.Proofs.Grammar.Represents

/-!
# Equal grammars

Equality of grammars is decided by counting the buckets of both and looking the heads of one up in
the other. As no two buckets have the same head, two grammars are equal exactly if the same
daughters are found under every head (`Represents.equal_iff`).
-/

namespace PhraseStructure.Grammar

open Production

variable {g h : Grammar} {L L' : List (List Symbol × List Symbol)} {buckets buckets' : List Bucket}
  {head : List Symbol}

/-- Sequences of daughters are the same when the texts of their symbols are. -/
theorem daughters_beq_iff {ds ds' : List (List Symbol)} :
    (ds == ds') = true ↔ ds.map texts = ds'.map texts := by
  induction ds generalizing ds' with
  | nil => cases ds' <;> simp
  | cons d ds ih =>
    cases ds' with
    | nil => simp
    | cons d' ds' => simp [ih, Symbol.list_beq_iff, texts]

/-- Of two equal lists of daughters, either both are empty or none is. -/
theorem daughters_eq_nil_iff {ds ds' : List (List Symbol)} (h : (ds == ds') = true) :
    ds = [] ↔ ds' = [] := by
  have htexts := daughters_beq_iff.mp h
  rw [← List.map_eq_nil_iff (f := texts), htexts, List.map_eq_nil_iff]

instance : EquivBEq (List (List Symbol)) where
  rfl := daughters_beq_iff.mpr rfl
  symm h := daughters_beq_iff.mpr (daughters_beq_iff.mp h).symm
  trans h₁ h₂ := daughters_beq_iff.mpr ((daughters_beq_iff.mp h₁).trans (daughters_beq_iff.mp h₂))

/-- The texts of the heads. -/
def headTexts (buckets : List Bucket) : List (List String) :=
  buckets.map fun bucket => texts bucket.1

/-- A head is there if its texts are among those of the heads. -/
theorem hasHead_iff_mem : HasHead buckets head ↔ texts head ∈ headTexts buckets := by
  rw [headTexts, List.mem_map]
  exact exists_congr fun bucket => and_congr_right fun _ => Symbol.list_beq_iff

/-- Heads differ if no texts occur twice among theirs. -/
theorem headsDiffer_iff_nodup : HeadsDiffer buckets ↔ (headTexts buckets).Nodup := by
  induction buckets with
  | nil => simp [headTexts]
  | cons bucket buckets ih =>
    rw [headsDiffer_cons, hasHead_iff_mem, ih]
    exact List.nodup_cons.symm

/-- If every head of some buckets is one of others, so are its texts. -/
theorem headTexts_subset (hsub : ∀ head, HasHead buckets head → HasHead buckets' head) :
    headTexts buckets ⊆ headTexts buckets' := by
  intro key hkey
  obtain ⟨bucket, hbucket, rfl⟩ := List.mem_map.mp hkey
  exact hasHead_iff_mem.mp (hsub bucket.1 ⟨bucket, hbucket, BEq.rfl⟩)

/-- Different heads that are all found in other buckets need as many of these. -/
theorem HeadsDiffer.length_le (hdiffer : HeadsDiffer buckets)
    (hsub : ∀ head, HasHead buckets head → HasHead buckets' head) :
    buckets.length ≤ buckets'.length := by
  have hsubperm := List.subperm_of_subset (headsDiffer_iff_nodup.mp hdiffer) (headTexts_subset hsub)
  simpa [headTexts] using hsubperm.length_le

/-- If there are no more buckets than different heads that are found in them, no other head is. -/
theorem HeadsDiffer.hasHead_of_length_le (hdiffer : HeadsDiffer buckets)
    (hsub : ∀ head, HasHead buckets head → HasHead buckets' head)
    (hlength : buckets'.length ≤ buckets.length) (hhead : HasHead buckets' head) :
    HasHead buckets head := by
  have hsubperm := List.subperm_of_subset (headsDiffer_iff_nodup.mp hdiffer) (headTexts_subset hsub)
  have hperm := hsubperm.perm_of_length_le (by simpa [headTexts] using hlength)
  rw [hasHead_iff_mem] at hhead ⊢
  exact hperm.mem_iff.mpr hhead

/-- If no bucket is empty, the heads are those under which something is found. -/
theorem NoneEmpty.hasHead_iff (hne : NoneEmpty buckets) :
    HasHead buckets head ↔ lookup head buckets ≠ [] := by
  constructor
  · exact hne.lookup_ne_nil
  · intro hfound
    by_contra hhead
    exact hfound (lookup_of_not_hasHead hhead)

/-- Grammars are equal exactly if the same daughters are found under every head. -/
theorem Represents.equal_iff (hg : Represents g L) (hh : Represents h L') :
    g.equal h = true ↔ ∀ head, (g.daughtersOf head == h.daughtersOf head) = true := by
  rw [equal, Bool.and_eq_true, List.all_eq_true, beq_iff_eq]
  constructor
  · rintro ⟨hcount, hall⟩ head
    have hbucket : ∀ bucket ∈ g.buckets, HasHead h.buckets bucket.1 ∧
        (h.daughtersOf bucket.1 == bucket.2) = true := by
      intro bucket hmem
      simpa [HasHead] using hall bucket hmem
    have hsub : ∀ head, HasHead g.buckets head → HasHead h.buckets head := by
      rintro head ⟨bucket, hmem, hsame⟩
      exact (hasHead_congr hsame).mp (hbucket bucket hmem).1
    by_cases hhead : HasHead g.buckets head
    · obtain ⟨bucket, hmem, hsame⟩ := hhead
      have hfound : g.daughtersOf head = bucket.2 := by
        rw [daughtersOf, ← lookup_congr hsame, lookup_of_mem hg.headsDiffer hmem]
      have hother : h.daughtersOf head = h.daughtersOf bucket.1 :=
        (lookup_congr hsame h.buckets).symm
      rw [hfound, hother]
      exact BEq.symm (hbucket bucket hmem).2
    · have hnone : ¬HasHead h.buckets head :=
        fun hmem => hhead (hg.headsDiffer.hasHead_of_length_le hsub (Nat.le_of_eq hcount.symm) hmem)
      rw [daughtersOf, daughtersOf, lookup_of_not_hasHead hhead, lookup_of_not_hasHead hnone]
      exact BEq.rfl
  · intro hall
    have hheads : ∀ head, HasHead g.buckets head ↔ HasHead h.buckets head := by
      intro head
      rw [hg.noneEmpty.hasHead_iff, hh.noneEmpty.hasHead_iff]
      exact not_congr (daughters_eq_nil_iff (hall head))
    refine ⟨?_, fun bucket hmem => ?_⟩
    · exact Nat.le_antisymm (hg.headsDiffer.length_le fun head => (hheads head).mp)
        (hh.headsDiffer.length_le fun head => (hheads head).mpr)
    · have hfound : g.daughtersOf bucket.1 = bucket.2 := lookup_of_mem hg.headsDiffer hmem
      have hsame := hall bucket.1
      rw [hfound] at hsame
      rw [Bool.and_eq_true, List.any_eq_true]
      exact ⟨(hheads bucket.1).mp ⟨bucket, hmem, BEq.rfl⟩, BEq.symm hsame⟩

end PhraseStructure.Grammar
