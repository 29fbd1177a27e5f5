import PhraseStructure.Proofs.Tree.Lines

/-!
# Lines that reach the margin

A tree is broken over lines where a line would reach the margin, and whether it would is decided
node by node before anything is written behind the node. A line that shows more than a single label
or word is that of a node that fits, and it stays before the margin up to where the node ends
(`length_opened_lt`). The closing brackets of the broken nodes that end there, too, come behind it
(`closingsAt_le_length`: at most one for each level), and only with them such a line may reach the
margin (`long_lines`).
-/

namespace PhraseStructure.Tree

open Text

variable {b : Brackets} {room indent margin : Int} {t u : Tree String} {path q : List Nat}

/-- The number of labels and words in what is written for a tree in front of those under it: all of
a node that fits, or else one. -/
def captionsOpened (b : Brackets) (room : Int) (u : Tree String) : Nat :=
  if fits b room u then u.preorder.length else 1

/-- The number of labels and words in the line of a position. -/
def captionsAt (b : Brackets) (room : Int) (t : Tree String) (path : List Nat) : Nat :=
  (t.get? path).elim 0 fun u => captionsOpened b (room - 2 * path.length) u

/-- What fits is shorter than its room. -/
theorem length_opened_lt (h : fits b room u = true) : (opened b room u).length < room := by
  cases u with
  | leaf word => cases h
  | node label children =>
    rw [opened, if_pos h, String.length_toList]
    exact of_decide_eq_true h

/-- A line shows a single label or word, unless a node that fits stands there. -/
theorem captionsAt_eq_one_or (hpath : path ∈ shown b room t) :
    captionsAt b room t path = 1 ∨
      ∃ u, t.get? path = some u ∧ fits b (room - 2 * path.length) u = true := by
  obtain ⟨u, hu⟩ := Option.isSome_iff_exists.mp (mem_shown_iff.mp hpath).1
  rw [captionsAt, hu, Option.elim_some, captionsOpened]
  split
  · next hfits => exact .inr ⟨u, rfl, hfits⟩
  · exact .inl rfl

/-- At a position where a node fits only nodes above it are closed, each at most once. -/
theorem closingsAt_le_length (hu : t.get? path = some u)
    (hfits : fits b (room - 2 * path.length) u = true) :
    closingsAt b room t path ≤ path.length := by
  let closed := (shown b room t).filter (closes b room t path)
  have hself : path ∉ closed := by
    intro hmem
    have hcloses := (List.mem_filter.mp hmem).2
    simp [closes, breaksAt, hu, hfits] at hcloses
  have hnodup : (path :: closed).Nodup :=
    List.nodup_cons.mpr ⟨hself, (nodup_shown b room t).filter _⟩
  have habove : path :: closed ⊆ path.inits := by
    refine List.cons_subset.mpr ⟨(List.mem_inits _ _).mpr List.prefix_rfl, fun q hq => ?_⟩
    exact (List.mem_inits _ _).mpr (prefix_of_closes (List.mem_filter.mp hq).2)
  have hlength := (List.subperm_of_subset hnodup habove).length_le
  rw [List.length_cons, List.length_inits] at hlength
  rw [closingsAt, List.countP_eq_length_filter]
  exact Nat.le_of_succ_le_succ hlength

/-- A line is made up of its indent, the part that is opened and the closing brackets. -/
theorem length_lineAt (hu : t.get? path = some u) : (lineAt b indent room t path).length =
    (if path = [] then 0 else (indent + 2 * path.length).toNat) +
      (opened b (room - 2 * path.length) u).length + closingsAt b room t path := by
  rw [lineAt, partAt, hu, Option.elim_some, List.length_append, List.length_append,
    List.length_replicate]
  split <;> simp [spaces]

/-- Up to the closing brackets of other nodes, the line of a node that fits stays before the
margin. -/
theorem length_lineAt_lt (hindent : 0 ≤ indent) (hu : t.get? path = some u)
    (hfits : fits b (margin - indent - 2 * path.length) u = true) :
    (lineAt b indent (margin - indent) t path).length <
      margin + closingsAt b (margin - indent) t path := by
  have hopened := length_opened_lt hfits
  rw [length_lineAt hu]
  split
  · push_cast
    omega
  · have hspaces : ((indent + 2 * path.length).toNat : Int) = indent + 2 * path.length :=
      Int.toNat_of_nonneg (by omega)
    push_cast [hspaces]
    omega

/-- Where the spaces fit, a tree without line feeds in its labels and words is written with one line
for each position that is shown. A line of as many characters as the margin, or more, shows only a
single label or word, unless broken nodes end on it: then it may be too long by fewer characters
than it has closing brackets for these, and there is at most one of them for each level above. -/
theorem long_lines (ht : t.HasNoFeed) (hindent : 0 ≤ indent) (b : Brackets) (margin : Int) :
    ((Style.broken margin indent).Fits → ∃ s, (Style.broken margin indent).render b t = .ok s) ∧
    ∀ s, (Style.broken margin indent).render b t = .ok s →
      splitAtFeeds s.toList =
        (shown b (margin - indent) t).map (lineAt b indent (margin - indent) t) ∧
      ∀ path ∈ shown b (margin - indent) t,
        margin ≤ (lineAt b indent (margin - indent) t path).length →
        captionsAt b (margin - indent) t path = 1 ∨
          0 < closingsAt b (margin - indent) t path ∧
            (lineAt b indent (margin - indent) t path).length <
              margin + closingsAt b (margin - indent) t path ∧
            closingsAt b (margin - indent) t path ≤ path.length := by
  obtain ⟨hrender, hlines, -⟩ := printed_lines ht b margin indent
  refine ⟨fun hfits => ⟨_, hrender hfits⟩, fun s hs => ⟨hlines s hs, fun path hpath hlong => ?_⟩⟩
  rcases captionsAt_eq_one_or hpath with hone | ⟨u, hu, hfits⟩
  · exact .inl hone
  · have hlength := length_lineAt_lt hindent hu hfits
    exact .inr ⟨by omega, hlength, closingsAt_le_length hu hfits⟩

/-- A node with a word under it fits before the margin, and the bracket of the root behind it comes
to stand at the margin. -/
theorem long_lines_closing :
    ∃ t s, HasNoFeed t ∧ (Style.broken 9 0).render .round t = .ok s ∧
      splitAtFeeds s.toList = ["(S", "  (NP a))"].map String.toList ∧
      [0] ∈ shown .round 9 t ∧ lineAt .round 0 9 t [0] = "  (NP a))".toList ∧
      captionsAt .round 9 t [0] = 2 ∧ 0 < closingsAt .round 9 t [0] ∧
      (lineAt .round 0 9 t [0]).length < (9 : Int) + closingsAt .round 9 t [0] := by
  let t := node "S" [node "NP" [leaf "a"]]
  have ht : t.HasNoFeed := by
    rw [HasNoFeed, preorder_eq_visits]
    decide +kernel
  obtain ⟨hrender, hlines⟩ := long_lines ht (Int.le_refl 0) .round 9
  obtain ⟨s, hs⟩ := hrender ⟨by decide, by decide⟩
  obtain ⟨hsplit, hlong⟩ := hlines s hs
  have hpath : [0] ∈ shown .round 9 t := by decide +kernel
  have hline : lineAt .round 0 9 t [0] = "  (NP a))".toList := by decide +kernel
  have hcaptions : captionsAt .round 9 t [0] = 2 := by decide +kernel
  rcases hlong [0] hpath (by rw [Int.sub_zero, hline]; decide) with hone | ⟨hpos, hlength, -⟩
  · exact absurd (hcaptions.symm.trans hone) (by decide)
  · refine ⟨t, s, ht, hs, ?_, hpath, hline, hcaptions, hpos, hlength⟩
    rw [hsplit]
    decide +kernel

/-- A line may reach the margin although it shows a label and a word, which could stand on two
lines. -/
theorem not_long_lines_single : ¬ ∀ (t : Tree String) (margin : Int) (s : String), HasNoFeed t →
    (Style.broken margin 0).render .round t = .ok s →
    ∀ path ∈ shown .round margin t, margin ≤ (lineAt .round 0 margin t path).length →
      captionsAt .round margin t path = 1 := by
  intro h
  let t := node "S" [node "NP" [leaf "a"]]
  have ht : t.HasNoFeed := by
    rw [HasNoFeed, preorder_eq_visits]
    decide +kernel
  have hs : (Style.broken 9 0).render .round t = .ok ((Style.broken 9 0).write .round t) :=
    render_of_fits .round t ⟨by decide, by decide⟩
  have hone := h t 9 _ ht hs [0] (by decide +kernel) (by decide +kernel)
  exact absurd hone (by decide +kernel)

end PhraseStructure.Tree
