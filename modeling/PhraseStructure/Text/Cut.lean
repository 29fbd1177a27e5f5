/-!
# Cutting text at a separator

A separator is looked for from the left, and its occurrences do not overlap. Main statement:
`eq_of_cut?`, the text is what stands before the separator, the separator, and what stands after.
-/

namespace PhraseStructure.Text

/-- What follows `sep` in a text that starts with it. -/
def afterLeading? : List Char → List Char → Option (List Char)
  | [], cs => some cs
  | _ :: _, [] => none
  | s :: sep, c :: cs => if s = c then afterLeading? sep cs else none

/-- The text before and after the first occurrence of `sep`. -/
def cut? (sep : List Char) : List Char → Option (List Char × List Char)
  | [] => (afterLeading? sep []).map ([], ·)
  | c :: cs =>
      match afterLeading? sep (c :: cs) with
      | some rest => some ([], rest)
      | none => (cut? sep cs).map fun (before, after) => (c :: before, after)

/-- A text with the separator at its start is the separator and what is behind it. -/
theorem eq_of_afterLeading? {sep cs rest : List Char} (h : afterLeading? sep cs = some rest) :
    cs = sep ++ rest := by
  induction sep generalizing cs with
  | nil => simpa [afterLeading?] using h
  | cons s sep ih =>
      cases cs with
      | nil => simp [afterLeading?] at h
      | cons c cs =>
          by_cases hsc : s = c
          · simp only [afterLeading?, hsc, if_true] at h
            simp [hsc, ih h]
          · simp [afterLeading?, hsc] at h

/-- A text that is cut is what stands before the separator, the separator and what is behind it. -/
theorem eq_of_cut? {sep cs before after : List Char} (h : cut? sep cs = some (before, after)) :
    cs = before ++ sep ++ after := by
  induction cs generalizing before after with
  | nil =>
      obtain ⟨rest, hrest, heq⟩ := Option.map_eq_some_iff.mp h
      cases heq
      simpa using eq_of_afterLeading? hrest
  | cons c cs ih =>
      unfold cut? at h
      split at h
      · next rest hrest =>
          cases h
          simpa using eq_of_afterLeading? hrest
      · obtain ⟨⟨b, a⟩, hcut, heq⟩ := Option.map_eq_some_iff.mp h
        cases heq
        simp [ih hcut]

/-- What is behind the separator is shorter than the text. -/
theorem length_after_lt_of_cut? {sep cs before after : List Char} (hsep : sep ≠ [])
    (h : cut? sep cs = some (before, after)) : after.length < cs.length := by
  have hlen := congrArg List.length (eq_of_cut? h)
  have hpos : 0 < sep.length := List.length_pos_iff.mpr hsep
  simp only [List.length_append] at hlen
  omega

/-- The pieces of a text between the occurrences of a separator. -/
def splitOn (sep : List Char) (hsep : sep ≠ []) (cs : List Char) : List (List Char) :=
  match _h : cut? sep cs with
  | none => [cs]
  | some (before, after) => before :: splitOn sep hsep after
termination_by cs.length
decreasing_by exact length_after_lt_of_cut? hsep _h

/-- The pieces of a text between commas. -/
def splitAtCommas (cs : List Char) : List (List Char) := splitOn [','] (by simp) cs

/-- Whether `part` occurs somewhere in the text. -/
def contains (part cs : List Char) : Bool := (cut? part cs).isSome

/-- The pieces joined with `sep` between every two. -/
def join (sep : List Char) : List (List Char) → List Char
  | [] => []
  | [cs] => cs
  | cs :: rest => cs ++ sep ++ join sep rest

/-- Strings joined with `sep` between every two. -/
def joinStrings (sep : String) (pieces : List String) : String :=
  String.ofList (join sep.toList (pieces.map String.toList))

/-- All pieces but the last are followed by the separator. -/
theorem join_concat (sep : List Char) (pieces : List (List Char)) (last : List Char) :
    join sep (pieces ++ [last]) = pieces.flatMap (· ++ sep) ++ last := by
  induction pieces with
  | nil => rfl
  | cons piece pieces ih =>
      obtain ⟨next, rest, hrest⟩ : ∃ next rest, pieces ++ [last] = next :: rest :=
        List.exists_cons_of_ne_nil (by simp)
      rw [List.cons_append, hrest, join.eq_3 _ _ _ (by simp), ← hrest, ih]
      simp

/-- Joining the pieces of a text with its separator gives the text back. -/
theorem join_splitOn (sep : List Char) (hsep : sep ≠ []) (cs : List Char) :
    join sep (splitOn sep hsep cs) = cs := by
  fun_induction splitOn sep hsep cs with
  | case1 cs h => simp [join]
  | case2 cs before after h ih =>
      have hne : splitOn sep hsep after ≠ [] := by
        unfold splitOn
        split <;> simp
      obtain ⟨p, ps, hps⟩ := List.exists_cons_of_ne_nil hne
      rw [hps] at ih ⊢
      rw [join, ih, eq_of_cut? h]
      simp

end PhraseStructure.Text
