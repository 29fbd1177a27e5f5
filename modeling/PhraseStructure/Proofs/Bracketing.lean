import Mathlib.Data.List.TakeWhile
import PhraseStructure.Tree.Reading

/-!
# Balanced text

Reading trees is a matter of how many brackets are open at each place of a text
(`Brackets.depth`). A text is balanced when every bracket in it finds its partner, and a bracketing
when, in addition, its first character is the partner of its last. The main result,
`splitBalanced?_of_closes`, says that the search for the partner of a bracket ends behind the
bracketing that the bracket begins, and `exists_closes` that this search succeeds whenever the
closing brackets suffice.
-/

namespace PhraseStructure.Brackets

variable (b : Brackets)

/-- The number of brackets that a text leaves open; negative if it closes more than it opens. -/
def depth (cs : List Char) : Int := (cs.count b.opening : Int) - cs.count b.closing

/-- No bracket occurs in the text. -/
def IsFree (cs : List Char) : Prop := ∀ c ∈ cs, c ≠ b.opening ∧ c ≠ b.closing

/-- Every bracket of the text has its partner in it. -/
structure IsBalanced (cs : List Char) : Prop where
  depth_eq_zero : b.depth cs = 0
  depth_nonneg : ∀ front, front <+: cs → 0 ≤ b.depth front

/-- The depth goes from zero to positive numbers with the first character, and returns to zero with
the last one only. -/
structure IsBracketing (cs : List Char) : Prop where
  starts : [b.opening] <+: cs
  depth_eq_zero : b.depth cs = 0
  depth_pos : ∀ front, front <+: cs → front ≠ [] → front ≠ cs → 0 < b.depth front

/-- Behind `d` open brackets, the text closes the outermost of them with its last character. -/
structure Closes (d : Int) (cs : List Char) : Prop where
  depth_eq_zero : d + b.depth cs = 0
  depth_pos : ∀ front, front <+: cs → front ≠ cs → 0 < d + b.depth front

variable {b} {c : Char} {cs ds front : List Char} {d : Int}

/-- A bracket is not blank. -/
theorem ne_of_isBlank (h : Text.isBlank c = true) : c ≠ b.opening ∧ c ≠ b.closing := by
  constructor
  · rintro rfl
    simp [b.opening_visible] at h
  · rintro rfl
    simp [b.closing_visible] at h

/-- What can stand in a word is neither blank nor a bracket. -/
theorem isPlain_iff :
    b.isPlain c = true ↔ Text.isBlank c = false ∧ c ≠ b.opening ∧ c ≠ b.closing := by
  simp [isPlain, and_assoc]

/-- What starts a text of two parts either lies in the first one or reaches into the second. -/
theorem prefix_append_cases (h : front <+: cs ++ ds) :
    front <+: cs ∨ ∃ rest, front = cs ++ rest ∧ rest <+: ds := by
  obtain ⟨tail, htail⟩ := h
  rcases List.append_eq_append_iff.mp htail with ⟨mid, rfl, -⟩ | ⟨mid, rfl, hmid⟩
  · exact .inl ⟨mid, rfl⟩
  · exact .inr ⟨mid, rfl, tail, hmid.symm⟩

/-- The empty text leaves no bracket open. -/
@[simp] theorem depth_nil : b.depth [] = 0 := by simp [depth]

/-- One text after the other leaves open what both of them do together. -/
theorem depth_append (cs ds : List Char) : b.depth (cs ++ ds) = b.depth cs + b.depth ds := by
  simp only [depth, List.count_append]
  omega

/-- The first character changes the number of open brackets before the others do. -/
theorem depth_cons (c : Char) (cs : List Char) : b.depth (c :: cs) = b.depth [c] + b.depth cs :=
  depth_append [c] cs

/-- An opening bracket leaves one bracket open. -/
theorem depth_opening (hb : b.opening ≠ b.closing) : b.depth [b.opening] = 1 := by
  simp [depth, hb]

/-- A closing bracket leaves one bracket less open. -/
theorem depth_closing (hb : b.opening ≠ b.closing) : b.depth [b.closing] = -1 := by
  simp [depth, hb.symm]

/-- A text is free of brackets if it has neither an opening nor a closing one. -/
theorem isFree_iff : b.IsFree cs ↔ cs.count b.opening = 0 ∧ cs.count b.closing = 0 := by
  rw [List.count_eq_zero, List.count_eq_zero]
  constructor
  · intro h
    exact ⟨fun hmem => (h _ hmem).1 rfl, fun hmem => (h _ hmem).2 rfl⟩
  · rintro ⟨hopening, hclosing⟩ c hmem
    exact ⟨fun heq => hopening (heq ▸ hmem), fun heq => hclosing (heq ▸ hmem)⟩

/-- A text without brackets leaves none open. -/
theorem IsFree.depth_eq_zero (h : b.IsFree cs) : b.depth cs = 0 := by
  obtain ⟨hopening, hclosing⟩ := isFree_iff.mp h
  simp [depth, hopening, hclosing]

/-- No bracket occurs in two texts one after the other if none occurs in either. -/
theorem isFree_append : b.IsFree (cs ++ ds) ↔ b.IsFree cs ∧ b.IsFree ds := by
  simp only [IsFree, List.mem_append]
  exact ⟨fun h => ⟨fun c hc => h c (.inl hc), fun c hc => h c (.inr hc)⟩,
    fun h c hc => hc.elim (h.1 c) (h.2 c)⟩

/-- A single character is free of brackets if it is none. -/
theorem isFree_singleton : b.IsFree [c] ↔ c ≠ b.opening ∧ c ≠ b.closing := by
  simp [IsFree]

/-- What starts a text without brackets has none either. -/
theorem IsFree.of_prefix (h : b.IsFree cs) (hfront : front <+: cs) : b.IsFree front :=
  fun c hc => h c (hfront.subset hc)

/-- Blank text holds no bracket. -/
theorem isFree_of_allBlank (h : Text.allBlank cs = true) : b.IsFree cs :=
  fun c hc => ne_of_isBlank (List.all_eq_true.mp h c hc)

/-- A label or a word holds no bracket. -/
theorem isFree_of_isPlain (h : ∀ c ∈ cs, b.isPlain c = true) : b.IsFree cs :=
  fun c hc => (isPlain_iff.mp (h c hc)).2

/-- The word at the start of a text holds no bracket. -/
theorem isFree_takeWhile_isPlain (cs : List Char) : b.IsFree (cs.takeWhile b.isPlain) :=
  isFree_of_isPlain fun _ hc => List.mem_takeWhile_imp hc

namespace IsBalanced

/-- A text without brackets is balanced. -/
theorem of_isFree (h : b.IsFree cs) : b.IsBalanced cs where
  depth_eq_zero := h.depth_eq_zero
  depth_nonneg front hfront := by
    have := (h.of_prefix hfront).depth_eq_zero
    omega

/-- One balanced text after the other is balanced. -/
theorem append (hcs : b.IsBalanced cs) (hds : b.IsBalanced ds) : b.IsBalanced (cs ++ ds) where
  depth_eq_zero := by
    rw [depth_append, hcs.depth_eq_zero, hds.depth_eq_zero]
    rfl
  depth_nonneg front hfront := by
    rcases prefix_append_cases hfront with h | ⟨rest, rfl, hrest⟩
    · exact hcs.depth_nonneg front h
    · rw [depth_append, hcs.depth_eq_zero]
      simpa using hds.depth_nonneg rest hrest

end IsBalanced

namespace Closes

/-- What has been read only changes the number of brackets that are left to close. -/
theorem of_append (h : b.Closes d (cs ++ ds)) : b.Closes (d + b.depth cs) ds where
  depth_eq_zero := by
    have := h.depth_eq_zero
    rw [depth_append] at this
    omega
  depth_pos front hfront hne := by
    have := h.depth_pos (cs ++ front) ((List.prefix_append_right_inj cs).mpr hfront)
      (by simpa using hne)
    rw [depth_append] at this
    omega

/-- The first character changes how many brackets are left to close. -/
theorem of_cons (h : b.Closes d (c :: cs)) : b.Closes (d + b.depth [c]) cs :=
  (show b.Closes d ([c] ++ cs) from h).of_append

/-- Text without brackets in front of it makes no difference. -/
theorem of_isFree_append (hcs : b.IsFree cs) (h : b.Closes d (cs ++ ds)) : b.Closes d ds := by
  simpa [hcs.depth_eq_zero] using h.of_append

/-- Behind no open bracket there is nothing to close. -/
theorem nil : b.Closes 0 [] where
  depth_eq_zero := by simp
  depth_pos _ hfront hne := absurd (List.prefix_nil.mp hfront) hne

/-- A character in front may open a further bracket, or close one that is not the outermost. -/
theorem cons (hd : 0 < d) (h : b.Closes (d + b.depth [c]) cs) : b.Closes d (c :: cs) where
  depth_eq_zero := by
    have := h.depth_eq_zero
    rw [depth_cons]
    omega
  depth_pos front hfront hne := by
    rcases List.prefix_cons_iff.mp hfront with rfl | ⟨rest, rfl, hrest⟩
    · simpa using hd
    · have := h.depth_pos rest hrest (by simpa using hne)
      rw [depth_cons]
      omega

/-- Balanced text in front closes nothing that was open before it. -/
theorem append (hcs : b.IsBalanced cs) (hd : 0 < d) (h : b.Closes d ds) :
    b.Closes d (cs ++ ds) where
  depth_eq_zero := by
    have := h.depth_eq_zero
    rw [depth_append, hcs.depth_eq_zero]
    omega
  depth_pos front hfront hne := by
    rcases prefix_append_cases hfront with hfront | ⟨rest, rfl, hrest⟩
    · have := hcs.depth_nonneg front hfront
      omega
    · have := h.depth_pos rest hrest (by simpa using hne)
      rw [depth_append, hcs.depth_eq_zero]
      omega

/-- Nothing is left to close only at the end. -/
theorem eq_nil (h : b.Closes 0 cs) : cs = [] := by
  by_contra hne
  simpa using h.depth_pos [] List.nil_prefix (Ne.symm hne)

/-- An open bracket is not closed by the empty text. -/
theorem ne_nil (hd : 0 < d) (h : b.Closes d cs) : cs ≠ [] := by
  rintro rfl
  have := h.depth_eq_zero
  simp only [depth_nil] at this
  omega

end Closes

section Search

variable (hb : b.opening ≠ b.closing)
include hb

/-- Wherever the closing brackets suffice, the open ones are closed at some place. -/
theorem exists_closes {n : Nat} (hn : 0 < n) (h : n + b.depth cs ≤ 0) :
    ∃ front rest, cs = front ++ rest ∧ b.Closes n front := by
  induction cs generalizing n with
  | nil =>
    simp only [depth_nil] at h
    omega
  | cons c cs ih =>
    rw [depth_cons] at h
    by_cases hone : (n : Int) + b.depth [c] = 0
    · exact ⟨[c], cs, rfl, Closes.cons (by omega) (hone ▸ Closes.nil)⟩
    · have hchange : b.depth [c] = 1 ∨ b.depth [c] = -1 ∨ b.depth [c] = 0 := by
        by_cases ho : c = b.opening
        · exact .inl (ho ▸ depth_opening hb)
        · by_cases hc : c = b.closing
          · exact .inr (.inl (hc ▸ depth_closing hb))
          · exact .inr (.inr (isFree_singleton.mpr ⟨ho, hc⟩).depth_eq_zero)
      obtain ⟨m, hm⟩ : ∃ m : Nat, (n : Int) + b.depth [c] = m :=
        ⟨(n + b.depth [c]).toNat, by omega⟩
      obtain ⟨front, rest, rfl, hfront⟩ := ih (n := m) (by omega) (by omega)
      exact ⟨c :: front, rest, rfl, Closes.cons (by omega) (hm ▸ hfront)⟩

/-- The search for the place where `n` open brackets are closed finds it. -/
theorem splitBalanced?_of_closes {n : Nat} (hn : 0 < n) (h : b.Closes n cs)
    (before rest : List Char) :
    splitBalanced? b n before (cs ++ rest) = some (before.reverse ++ cs, rest) := by
  induction cs generalizing n before with
  | nil => exact absurd rfl (h.ne_nil (by omega))
  | cons c cs ih =>
    have htail := h.of_cons
    rw [List.cons_append, splitBalanced?]
    by_cases ho : c = b.opening
    · subst ho
      rw [depth_opening hb] at htail
      rw [if_pos rfl, ih (by omega) (by exact_mod_cast htail)]
      simp
    · rw [if_neg ho]
      by_cases hc : c = b.closing
      · subst hc
        rw [depth_closing hb] at htail
        rw [if_pos rfl]
        by_cases hone : n = 1
        · subst hone
          have : cs = [] := Closes.eq_nil (by simpa using htail)
          simp [this]
        · rw [if_neg (by omega), ih (n := n - 1) (by omega) (by convert htail using 1; omega)]
          simp
      · rw [(isFree_singleton.mpr ⟨ho, hc⟩).depth_eq_zero, Int.add_zero] at htail
        rw [if_neg hc, ih hn htail]
        simp

end Search

namespace IsBracketing

/-- A bracketing is an opening bracket and a text that closes it with its last character. -/
theorem eq_cons (hb : b.opening ≠ b.closing) (h : b.IsBracketing cs) :
    ∃ rest, cs = b.opening :: rest ∧ b.Closes 1 rest := by
  obtain ⟨rest, rfl⟩ := h.starts
  refine ⟨rest, rfl, ?_, fun front hfront hne => ?_⟩
  · have := h.depth_eq_zero
    rwa [depth_append, depth_opening hb] at this
  · have := h.depth_pos (b.opening :: front) ((List.cons_prefix_cons).mpr ⟨rfl, hfront⟩)
      (by simp) (by simpa using hne)
    rwa [depth_cons, depth_opening hb] at this

/-- An opening bracket and a text that closes it with its last character are a bracketing. -/
theorem of_closes (hb : b.opening ≠ b.closing) (h : b.Closes 1 cs) :
    b.IsBracketing (b.opening :: cs) where
  starts := ⟨cs, rfl⟩
  depth_eq_zero := by
    rw [depth_cons, depth_opening hb]
    exact h.depth_eq_zero
  depth_pos front hfront hnil hne := by
    rcases List.prefix_cons_iff.mp hfront with rfl | ⟨rest, rfl, hrest⟩
    · exact absurd rfl hnil
    · rw [depth_cons, depth_opening hb]
      exact h.depth_pos rest hrest (by simpa using hne)

/-- A bracketing is balanced. -/
theorem isBalanced (h : b.IsBracketing cs) : b.IsBalanced cs where
  depth_eq_zero := h.depth_eq_zero
  depth_nonneg front hfront := by
    by_cases hnil : front = []
    · simp [hnil]
    · by_cases hne : front = cs
      · simp [hne, h.depth_eq_zero]
      · exact Int.le_of_lt (h.depth_pos front hfront hnil hne)

/-- Balanced text between a pair of brackets. -/
theorem enclosed (hb : b.opening ≠ b.closing) (h : b.IsBalanced cs) :
    b.IsBracketing (b.opening :: (cs ++ [b.closing])) := by
  refine of_closes hb (Closes.append h (by omega) (Closes.cons (by omega) ?_))
  rw [depth_closing hb]
  exact Closes.nil

/-- A bracketing ends at a place that what follows cannot change. -/
theorem eq_of_append_eq {cs' ds' : List Char} (h : b.IsBracketing cs) (h' : b.IsBracketing cs')
    (heq : cs ++ ds = cs' ++ ds') : cs = cs' := by
  have hne : ∀ {xs}, b.IsBracketing xs → xs ≠ [] := by
    rintro xs hxs rfl
    simpa using hxs.starts
  by_contra hdiff
  rcases List.append_eq_append_iff.mp heq with ⟨mid, rfl, -⟩ | ⟨mid, rfl, -⟩
  · have := h'.depth_pos cs ⟨mid, rfl⟩ (hne h) hdiff
    rw [h.depth_eq_zero] at this
    omega
  · have := h.depth_pos cs' ⟨mid, rfl⟩ (hne h') (Ne.symm hdiff)
    rw [h'.depth_eq_zero] at this
    omega

end IsBracketing

end PhraseStructure.Brackets
