import Mathlib.Data.List.InsertIdx
import PhraseStructure.Grammar.Rules
import PhraseStructure.Proofs.Grammar.Buckets

/-!
# The productions of a grammar in the order of addition

A grammar stands for one list of productions, in the order in which they were added
(`Represents`, `Represents.unique`): under each head it holds the daughters of the productions with
that head, and beside that the heads of all of them. Adding a production appends it to the list
(`Represents.addTo`), and removing the `n`-th one under a head removes the `n`-th one with that head
from the list (`Represents.erase`).
-/

namespace PhraseStructure

/-- The head and the daughters of a production. -/
def Production.sides (p : Production) : List Symbol × List Symbol := (p.head, p.daughters)

/-- A production is determined by its head and its daughters. -/
theorem Production.sides_injective : Function.Injective Production.sides := by
  rintro ⟨head, daughters, _⟩ ⟨head', daughters', _⟩ h
  obtain ⟨rfl, rfl⟩ := Prod.mk.inj h
  rfl

namespace Grammar

variable {g g' : Grammar} {L L' before after : List (List Symbol × List Symbol)}
  {e : List Symbol × List Symbol} {head : List Symbol} {n : Nat}

/-- The grammar holds these productions, which were added in this order. -/
structure Represents (g : Grammar) (L : List (List Symbol × List Symbol)) : Prop where
  additions_eq : g.additions = L.map Prod.fst
  daughtersOf_eq : ∀ head, g.daughtersOf head = (L.filter (·.1 == head)).map Prod.snd
  headsDiffer : HeadsDiffer g.buckets
  noneEmpty : NoneEmpty g.buckets

/-- Of the elements with a property, the `n`-th is left out together with its place in the list. -/
theorem filter_eraseIdx {α : Type} {p : α → Bool} {x : α} {front rest : List α}
    (hn : front.countP p = n) (hx : p x = true) :
    ((front ++ x :: rest).filter p).eraseIdx n = (front ++ rest).filter p := by
  rw [List.countP_eq_length_filter] at hn
  rw [List.filter_append, List.filter_cons_of_pos hx, List.filter_append,
    List.eraseIdx_append_of_length_le (by omega), hn, Nat.sub_self, List.eraseIdx_cons_zero]

/-- The `n`-th of the elements with a property is one that `n` others with it precede. -/
theorem exists_of_getElem?_filter {α : Type} {p : α → Bool} {x : α} {xs : List α}
    (h : (xs.filter p)[n]? = some x) :
    ∃ front rest, xs = front ++ x :: rest ∧ front.countP p = n ∧ p x = true := by
  induction xs generalizing n with
  | nil => simp at h
  | cons y ys ih =>
    by_cases hy : p y = true
    · rw [List.filter_cons_of_pos hy] at h
      cases n with
      | zero =>
        obtain rfl : y = x := by simpa using h
        exact ⟨[], ys, rfl, rfl, hy⟩
      | succ n =>
        obtain ⟨front, rest, rfl, hcount, hx⟩ := ih (by simpa using h)
        exact ⟨y :: front, rest, rfl, by simp [hy, hcount], hx⟩
    · rw [List.filter_cons_of_neg hy] at h
      obtain ⟨front, rest, rfl, hcount, hx⟩ := ih h
      exact ⟨y :: front, rest, rfl, by simp [hy, hcount], hx⟩

/-- The `n`-th of the elements with a property has one place in a list. -/
theorem eq_of_append_cons_eq {α : Type} {p : α → Bool} {x y : α} {front rest front' rest' : List α}
    (h : front ++ x :: rest = front' ++ y :: rest') (hx : p x = true) (hy : p y = true)
    (hn : front.countP p = front'.countP p) : front = front' ∧ x = y ∧ rest = rest' := by
  induction front generalizing front' with
  | nil =>
    cases front' with
    | nil =>
      obtain ⟨rfl, rfl⟩ := List.cons.inj h
      exact ⟨rfl, rfl, rfl⟩
    | cons z front' =>
      obtain ⟨rfl, -⟩ := List.cons.inj h
      simp [hx] at hn
  | cons z front ih =>
    cases front' with
    | nil =>
      obtain ⟨rfl, -⟩ := List.cons.inj h
      simp [hy] at hn
    | cons w front' =>
      obtain ⟨rfl, htail⟩ := List.cons.inj h
      have hcount : front.countP p = front'.countP p := by
        simpa only [List.countP_cons, Nat.add_right_cancel_iff] using hn
      obtain ⟨rfl, rfl, rfl⟩ := ih htail hcount
      exact ⟨rfl, rfl, rfl⟩

/-- Forgetting the `n`-th of the heads equal to one. -/
theorem forget_append {heads rest : List (List Symbol)} {key : List Symbol}
    (hkey : (key == head) = true) (hn : heads.countP (· == head) = n) :
    forget head n (heads ++ key :: rest) = heads ++ rest := by
  induction heads generalizing n with
  | nil =>
    obtain rfl : 0 = n := hn
    simp [forget, hkey]
  | cons first heads ih =>
    by_cases hfirst : (first == head) = true
    · simp only [List.countP_cons, hfirst, if_true] at hn
      obtain ⟨m, rfl⟩ : ∃ m, n = m + 1 := ⟨n - 1, by omega⟩
      simp only [List.cons_append, forget, hfirst, if_true]
      rw [ih (by omega)]
    · simp only [List.countP_cons, hfirst, Bool.false_eq_true, if_false, Nat.add_zero] at hn
      simp only [List.cons_append, forget, hfirst, Bool.false_eq_true, if_false]
      rw [ih hn]

namespace Represents

/-- The grammar determines the list. -/
theorem unique (h : Represents g L) (h' : Represents g L') : L = L' := by
  have hheads : L.map Prod.fst = L'.map Prod.fst := h.additions_eq.symm.trans h'.additions_eq
  have hdaughters : ∀ head, (L.filter (·.1 == head)).map Prod.snd =
      (L'.filter (·.1 == head)).map Prod.snd :=
    fun head => (h.daughtersOf_eq head).symm.trans (h'.daughtersOf_eq head)
  clear h h'
  induction L generalizing L' with
  | nil => simpa using hheads
  | cons e L ih =>
    cases L' with
    | nil => simp at hheads
    | cons e' L' =>
      obtain ⟨key, d⟩ := e
      obtain ⟨key', d'⟩ := e'
      obtain ⟨rfl, hrest⟩ : key = key' ∧ L.map Prod.fst = L'.map Prod.fst := by simpa using hheads
      obtain ⟨rfl, -⟩ : d = d' ∧ _ := by simpa using hdaughters key
      rw [ih hrest]
      intro head
      have hhead := hdaughters head
      by_cases hkey : (key == head) = true
      · simpa [hkey] using hhead
      · simpa [hkey] using hhead

/-- A head is in use exactly if some production has it. -/
theorem hasHead_iff (h : Represents g L) :
    HasHead g.buckets head ↔ ∃ e ∈ L, (e.1 == head) = true := by
  have hnone : (∃ e ∈ L, (e.1 == head) = true) ↔ g.daughtersOf head ≠ [] := by
    rw [h.daughtersOf_eq]
    simp
  rw [hnone]
  refine ⟨h.noneEmpty.lookup_ne_nil, fun hne => ?_⟩
  by_contra hhead
  exact hne (lookup_of_not_hasHead hhead)

/-- The empty grammar represents no productions. -/
theorem empty (conventions : Conventions) : Represents (empty conventions) [] where
  additions_eq := rfl
  daughtersOf_eq _ := rfl
  headsDiffer := headsDiffer_nil
  noneEmpty _ h := by simp [Grammar.empty] at h

/-- The start symbol and the conventions do not matter. -/
theorem congr (h : Represents g L) (hbuckets : g'.buckets = g.buckets)
    (hadditions : g'.additions = g.additions) : Represents g' L where
  additions_eq := hadditions.trans h.additions_eq
  daughtersOf_eq head := by
    rw [daughtersOf, hbuckets]
    exact h.daughtersOf_eq head
  headsDiffer := hbuckets ▸ h.headsDiffer
  noneEmpty := hbuckets ▸ h.noneEmpty

/-- Further daughters under a head come last. -/
theorem addTo (h : Represents g L) {more : List (List Symbol)} (hmore : more ≠ [])
    (hbuckets : g'.buckets = addTo head more g.buckets)
    (hadditions : g'.additions = g.additions ++ more.map fun _ => head) :
    Represents g' (L ++ more.map (head, ·)) where
  additions_eq := by
    rw [hadditions, h.additions_eq, List.map_append, List.map_map]
    rfl
  daughtersOf_eq other := by
    rw [daughtersOf, hbuckets, lookup_addTo, ← daughtersOf, h.daughtersOf_eq, List.filter_append,
      List.map_append, filter_map_pair]
  headsDiffer := hbuckets ▸ h.headsDiffer.addTo
  noneEmpty := hbuckets ▸ h.noneEmpty.addTo hmore

/-- The `n`-th production with a head is the `n`-th in the list. -/
theorem erase (h : Represents g (before ++ e :: after)) (he : (e.1 == head) = true)
    (hn : before.countP (·.1 == head) = n) : Represents (g.erase head n) (before ++ after) where
  additions_eq := by
    have hcount : (before.map Prod.fst).countP (· == head) = n := by
      rw [List.countP_map]
      exact hn
    rw [Grammar.erase, h.additions_eq, List.map_append, List.map_cons, forget_append he hcount,
      List.map_append]
  daughtersOf_eq other := by
    rw [daughtersOf, Grammar.erase, lookup_eraseFrom h.headsDiffer, ← daughtersOf, h.daughtersOf_eq]
    by_cases hother : (head == other) = true
    · have hcongr : ∀ key : List Symbol, (key == other) = (key == head) :=
        fun key => (BEq.congr_right hother).symm
      simp only [hother, if_true, hcongr]
      rw [List.eraseIdx_map, filter_eraseIdx hn he]
    · have hne : ¬(e.1 == other) = true := by rwa [BEq.congr_left he]
      simp only [hother, Bool.false_eq_true, if_false, List.filter_append]
      rw [List.filter_cons_of_neg (by simpa using hne)]
  headsDiffer := h.headsDiffer.eraseFrom
  noneEmpty := h.noneEmpty.eraseFrom

end Represents

end Grammar

end PhraseStructure
