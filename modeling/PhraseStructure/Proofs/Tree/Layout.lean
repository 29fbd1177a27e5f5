import PhraseStructure.Proofs.Text.Respacing
import PhraseStructure.Proofs.Tree.RoundTrip

/-!
# Layouts of a tree

A tree that is broken over several lines differs from the tree on a single line by its blanks only
(`isRespaced_pretty`), and other blanks change neither the tokens of a text
(`Token.scan_isRespaced`) nor how its brackets are matched. So the tree is read back from each of
its layouts (`IsLayout.readChars`).
-/

namespace PhraseStructure

open Brackets Text

variable {b : Brackets} {cs ds : List Char} {t : Tree String}

namespace Token

/-- Blanks in front of a text make no difference to its tokens. -/
theorem scan_allBlank_append {gap : List Char} (h : allBlank gap = true) (cs : List Char) :
    scan b (gap ++ cs) = scan b cs := by
  induction gap with
  | nil => rfl
  | cons c gap ih =>
    simp only [allBlank, List.all_cons, Bool.and_eq_true] at h
    rw [List.cons_append, scan_blank h.1, ih h.2]

/-- A word ends at the same place. -/
theorem takeWhile_isRespaced (h : IsRespaced cs ds) :
    cs.takeWhile b.isPlain = ds.takeWhile b.isPlain ∧
      IsRespaced (cs.dropWhile b.isPlain) (ds.dropWhile b.isPlain) := by
  induction h with
  | nil => exact ⟨rfl, .nil⟩
  | @char cs ds c h ih =>
    by_cases hc : b.isPlain c = true
    · simpa [hc] using ih
    · simpa [hc] using h.char c
  | @blank cs ds gap c hc hgap hne h _ =>
    obtain ⟨d, gap, rfl⟩ := List.exists_cons_of_ne_nil hne
    have hd : isBlank d = true := List.all_eq_true.mp hgap.allBlank d List.mem_cons_self
    have hstops := isPlain_of_isBlank (b := b) hc
    have hstops' := isPlain_of_isBlank (b := b) hd
    simpa [hstops, hstops'] using h.blank hc hgap hne

/-- The tokens are the same. -/
theorem scan_isRespaced (h : IsRespaced cs ds) : scan b ds = scan b cs := by
  fun_induction scan b cs generalizing ds with
  | case1 => rw [h.eq_nil, scan_nil]
  | case2 c cs _ hblank ih =>
    cases h with
    | char _ h => rw [scan_blank hblank, ih h]
    | blank _ hgap _ h => rw [scan_allBlank_append hgap.allBlank, ih h]
  | case3 cs _ hblank ih =>
    obtain ⟨rest, rfl, hrest⟩ := h.of_cons (by simpa using hblank)
    obtain ⟨htake, hdrop⟩ := takeWhile_isRespaced (b := b) hrest
    rw [scan, if_neg hblank, if_pos rfl, ih hdrop, htake]
  | case4 cs _ hblank hopening ih =>
    obtain ⟨rest, rfl, hrest⟩ := h.of_cons (by simpa using hblank)
    rw [scan, if_neg hblank, if_neg hopening, if_pos rfl, ih hrest]
  | case5 c cs _ hblank hopening hclosing ih =>
    obtain ⟨rest, rfl, hrest⟩ := h.of_cons (by simpa using hblank)
    obtain ⟨htake, hdrop⟩ := takeWhile_isRespaced (b := b) hrest
    rw [scan, if_neg hblank, if_neg hopening, if_neg hclosing, ih hdrop, htake]

end Token

namespace Brackets

/-- Blanks do not count. -/
theorem depth_removeBlanks (b : Brackets) (cs : List Char) :
    b.depth (removeBlanks cs) = b.depth cs := by
  have hcount : ∀ c, isBlank c = false → (removeBlanks cs).count c = cs.count c := by
    intro c hc
    rw [removeBlanks, List.count_filter (by simpa using hc)]
  rw [depth, depth, hcount _ b.opening_visible, hcount _ b.closing_visible]

/-- Only the characters that are not blank matter for the brackets. -/
theorem IsBalanced.congr (h : b.IsBalanced cs) (hsame : removeBlanks ds = removeBlanks cs) :
    b.IsBalanced ds where
  depth_eq_zero := by
    rw [← depth_removeBlanks, hsame, depth_removeBlanks]
    exact h.depth_eq_zero
  depth_nonneg front hfront := by
    obtain ⟨rest, rfl⟩ := hfront
    rw [removeBlanks_append] at hsame
    obtain ⟨front', rest', rfl, hfront', -⟩ := List.filter_eq_append_iff.mp hsame.symm
    rw [← depth_removeBlanks, ← hfront', ← removeBlanks, depth_removeBlanks]
    exact h.depth_nonneg front' ⟨rest', rfl⟩

end Brackets

namespace Tree

/-- The text holds the tokens of the tree, and brackets with their partners between a first and a
last one. -/
structure IsLayout (b : Brackets) (t : Tree String) (cs : List Char) : Prop where
  enclosed : ∃ inner, cs = b.opening :: (inner ++ [b.closing]) ∧ b.IsBalanced inner
  tokens_eq : Token.scan b cs = t.tokens

namespace IsLayout

/-- The text of a tree is a bracketing. -/
theorem isBracketing (hb : b.opening ≠ b.closing) (h : IsLayout b t cs) : b.IsBracketing cs := by
  obtain ⟨inner, rfl, hinner⟩ := h.enclosed
  exact .enclosed hb hinner

/-- A node is read from each of its layouts. -/
theorem readChars (hb : b.opening ≠ b.closing) {label : String} {children : List (Tree String)}
    (h : IsLayout b (node label children) cs) :
    Tree.readChars b cs = ⟨[], .ok (node label children)⟩ := by
  obtain ⟨t, hbuilt, ht⟩ := readChars_bracketing hb (h.isBracketing hb)
  rw [Builder.read_eq_takeAll, h.tokens_eq, Builder.takeAll_tokens_node] at hbuilt
  cases hbuilt
  exact ht

/-- Blanks may be replaced by others. -/
theorem respaced (h : IsLayout b t cs) (hcs : IsRespaced cs ds) : IsLayout b t ds where
  enclosed := by
    obtain ⟨inner, rfl, hinner⟩ := h.enclosed
    obtain ⟨inner', rfl, hrespaced⟩ := hcs.of_enclosed b.opening_visible b.closing_visible
    exact ⟨inner', rfl, hinner.congr hrespaced.removeBlanks_eq⟩
  tokens_eq := (Token.scan_isRespaced hcs).trans h.tokens_eq

end IsLayout

/-- A readable node on a single line is a layout of it. -/
theorem isLayout_flat (hb : b.opening ≠ b.closing) {label : String} {children : List (Tree String)}
    (h : (node label children).IsReadable b) :
    IsLayout b (node label children) ((node label children).flat b.enclosure).toList where
  enclosed := by
    refine ⟨label.toList ++ (flatAll b.enclosure children).toList, by simp, ?_⟩
    exact .append (.of_isFree (isFree_of_isPlain h.1)) (isBalanced_flatAll hb children h.2)
  tokens_eq := scan_flat_eq_tokens hb h

section Breaking

/-- A node is written on a single line if it is short enough, and broken over lines otherwise. -/
theorem toList_pretty_node (e : Enclosure) (margin indent : Int) (label : String)
    (children : List (Tree String)) :
    (pretty e margin indent (node label children)).toList =
      if (flat e (node label children)).length + indent < margin
      then (flat e (node label children)).toList
      else e.before.toList ++ (label.toList ++
        ((prettyAll e margin (indent + 2) children).toList ++ e.after.toList)) := by
  simp only [pretty]
  split
  · rfl
  · simp

mutual

/-- A tree that is broken over lines has the blanks of the tree on a single line, or more of
them. -/
theorem isRespaced_pretty (e : Enclosure) (margin indent : Int) (t : Tree String) :
    IsRespaced (flat e t).toList (pretty e margin indent t).toList := by
  match t with
  | .leaf word =>
    rw [flat, pretty]
    exact .refl _
  | .node label children =>
    rw [toList_pretty_node]
    split
    · exact .refl _
    · have hparts : (flat e (node label children)).toList = e.before.toList ++ (label.toList ++
          ((flatAll e children).toList ++ e.after.toList)) := by
        simp [flat]
      rw [hparts]
      exact .append (.refl _) (.append (.refl _)
        (.append (isRespaced_prettyAll e margin (indent + 2) children) (.refl _)))

/-- Trees that are broken over lines are those on a single line, respaced. -/
theorem isRespaced_prettyAll (e : Enclosure) (margin indent : Int) (ts : List (Tree String)) :
    IsRespaced (flatAll e ts).toList (prettyAll e margin indent ts).toList := by
  match ts with
  | [] =>
    rw [flatAll, prettyAll]
    exact .refl _
  | t :: ts =>
    have hlines : (prettyAll e margin indent (t :: ts)).toList = ('\n' :: (spaces indent).toList) ++
        ((pretty e margin indent t).toList ++ (prettyAll e margin indent ts).toList) := by
      simp [prettyAll]
    have hgap : IsGap ('\n' :: (spaces indent).toList) := by
      simp [IsGap, spaces, List.mem_replicate]
    rw [toList_flatAll_cons, hlines]
    exact .blank rfl hgap (by simp)
      (.append (isRespaced_pretty e margin indent t) (isRespaced_prettyAll e margin indent ts))

end

end Breaking

section Blanks

mutual

/-- The only blanks in a tree on a single line are the spaces between its parts. -/
theorem eq_space_of_mem_flat (t : Tree String) (h : t.IsReadable b) {c : Char}
    (hc : c ∈ (flat b.enclosure t).toList) (hblank : isBlank c = true) : c = ' ' := by
  have hplain : ¬b.isPlain c = true := by simp [Token.isPlain_of_isBlank hblank]
  match t with
  | .leaf word =>
    rw [toList_flat_leaf] at hc
    exact absurd (h.2 c hc) hplain
  | .node label children =>
    rw [toList_flat_node, List.mem_cons, List.mem_append, List.mem_append,
      List.mem_singleton] at hc
    rcases hc with rfl | hlabel | hchildren | rfl
    · simp [b.opening_visible] at hblank
    · exact absurd (h.1 c hlabel) hplain
    · exact eq_space_of_mem_flatAll children h.2 hchildren hblank
    · simp [b.closing_visible] at hblank

/-- The only blanks between readable trees on a single line are spaces. -/
theorem eq_space_of_mem_flatAll (ts : List (Tree String)) (h : AreReadable b ts) {c : Char}
    (hc : c ∈ (flatAll b.enclosure ts).toList) (hblank : isBlank c = true) : c = ' ' := by
  match ts with
  | [] => simp at hc
  | t :: ts =>
    rw [toList_flatAll_cons, List.mem_cons, List.mem_append] at hc
    rcases hc with rfl | hfirst | hrest
    · rfl
    · exact eq_space_of_mem_flat t h.1 hfirst hblank
    · exact eq_space_of_mem_flatAll ts h.2 hrest hblank

end

end Blanks

section Given

/-- A way to write a tree: on a single line, or broken over lines. -/
inductive Style
  | line
  | broken (margin indent : Int)

/-- The tree as it is written between brackets. -/
def Style.write (b : Brackets) (t : Tree String) : Style → String
  | line => t.flat b.enclosure
  | broken margin indent => t.pretty b.enclosure margin indent

/-- The tree as it is written for brackets, a margin and an indent that are given. -/
def Style.render (b : Brackets) (t : Tree String) : Style → Except Fault String
  | line => t.written (.text b.text)
  | broken margin indent => t.prettyGiven (.text b.text) (.int margin) (.int indent)

/-- So many spaces can be kept in front of a line. -/
def Style.Fits : Style → Prop
  | line => True
  | broken _ indent => fitsWord (indent + 2) = true ∧ indent ≤ mostSpaces

/-- Valid brackets enclose a tree. -/
theorem read_enclosure (b : Brackets) : Enclosure.read (.text b.text) = .ok b.enclosure := by
  simp [Enclosure.read, Datum.elements?, Brackets.text, Brackets.toChars, Datum.plain,
    Brackets.enclosure]

/-- Whole numbers are compared as such. -/
theorem less_whole (m n : Int) : (Number.whole m).less (.whole n) = decide (m < n) := by
  have hnat : 0 < Binary64.unitsOfOne := by decide +kernel
  have hpos : (0 : Int) < Binary64.unitsOfOne := by exact_mod_cast hnat
  simp only [Number.less, Number.rank?, Int.lt_irrefl, decide_false, Bool.false_or,
    beq_self_eq_true, Bool.true_and, Int.mul_lt_mul_right hpos]

/-- A tree that is short enough is written on a single line. -/
theorem pretty_of_fits {e : Enclosure} {margin indent : Int}
    (h : (flat e t).length + indent < margin) : pretty e margin indent t = flat e t := by
  cases t with
  | leaf word => rw [pretty, flat]
  | node label children => simp only [pretty, if_pos h]

/-- A tree is written as it should be, unless there were too many spaces in front of a line. -/
theorem prettyGiven_cases (b : Brackets) (margin indent : Int) (t : Tree String) :
    t.prettyGiven (.text b.text) (.int margin) (.int indent) =
      .ok (t.pretty b.enclosure margin indent) ∨
      ¬(Style.broken margin indent).Fits ∧
        ∃ fault, t.prettyGiven (.text b.text) (.int margin) (.int indent) = .error fault := by
  have hsecond : ((Datum.text b.text).elements?.getD [])[1]? =
      some (.text (String.singleton b.closing)) := by
    simp [Datum.elements?, Brackets.text, Brackets.toChars]
  have hbind : ∀ f : Enclosure → Except Fault String,
      (Except.ok b.enclosure >>= f) = f b.enclosure := fun _ => rfl
  simp only [prettyGiven, read_enclosure, hbind, hsecond, Datum.number?, Datum.int?,
    Number.addWhole, less_whole, wholeMargin, Number.ceiling?, decide_eq_true_eq, Style.Fits]
  by_cases hfits : indent + (flat b.enclosure t).length < margin
  · rw [if_pos hfits, pretty_of_fits (by omega)]
    exact .inl rfl
  · rw [if_neg hfits]
    by_cases hchildren : t.children.isEmpty = true
    · simp only [hchildren, Bool.not_true, Bool.false_eq_true, if_false]
      exact .inl rfl
    · by_cases hword : fitsWord (indent + 2) = true
      · by_cases hspaces : mostSpaces < indent
        · right
          simp only [hchildren, hword, hspaces]
          exact ⟨fun h => absurd h.2 (by omega), _, rfl⟩
        · left
          simp only [hchildren, hword, hspaces]
          rfl
      · right
        simp only [hchildren, hword]
        exact ⟨fun h => absurd h.1 (by simp), _, rfl⟩

/-- What is given makes the tree be written as it should be, if the spaces fit. -/
theorem render_cases (b : Brackets) (t : Tree String) (style : Style) :
    style.render b t = .ok (style.write b t) ∨
      ¬style.Fits ∧ ∃ fault, style.render b t = .error fault := by
  cases style with
  | line => exact .inl (written_text b t)
  | broken margin indent => exact prettyGiven_cases b margin indent t

/-- A tree is written if the spaces that are asked for can be kept. -/
theorem render_of_fits {style : Style} (b : Brackets) (t : Tree String) (h : style.Fits) :
    style.render b t = .ok (style.write b t) :=
  (render_cases b t style).resolve_right fun hnot => hnot.1 h

/-- A tree that is written is written in its style. -/
theorem eq_write_of_render {style : Style} {s : String} (h : style.render b t = .ok s) :
    s = style.write b t := by
  rcases render_cases b t style with hok | ⟨-, fault, hfault⟩
  · exact Except.ok.inj (h.symm.trans hok)
  · cases hfault.symm.trans h

/-- However a tree is written, it is written with the blanks of a single line, or more of them. -/
theorem isRespaced_write (b : Brackets) (t : Tree String) (style : Style) :
    IsRespaced (flat b.enclosure t).toList (style.write b t).toList := by
  cases style with
  | line => exact .refl _
  | broken margin indent => exact isRespaced_pretty b.enclosure margin indent t

/-- However a readable tree is written, its lines end with line feeds only. -/
theorem return_not_mem_write (h : t.IsReadable b) (style : Style) :
    '\r' ∉ (style.write b t).toList := by
  intro hmem
  have hflat := (isRespaced_write b t style).mem_of_mem hmem (by decide) (by decide)
  exact absurd (eq_space_of_mem_flat t h hflat (by decide)) (by decide)

/-- However a readable node is written, it is written as a layout of it. -/
theorem isLayout_write (hb : b.opening ≠ b.closing) {label : String} {children : List (Tree String)}
    (h : (node label children).IsReadable b) (style : Style) :
    IsLayout b (node label children) (style.write b (node label children)).toList :=
  (isLayout_flat hb h).respaced (isRespaced_write b _ style)

end Given

end Tree

end PhraseStructure
