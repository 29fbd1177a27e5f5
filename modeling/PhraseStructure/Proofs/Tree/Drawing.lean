import PhraseStructure.Proofs.Text.Cut
import PhraseStructure.Proofs.Tree.Layout
import PhraseStructure.Tree.Latex

/-!
# Reading the code that draws a tree

In the code that draws a tree a point stands before each label, and backslashes before the reserved
characters of labels and words (`drawn`). Nothing is lost: backslashes that were put before reserved
characters can be taken away again (`unescape_escapeReserved`). The code on a single line holds the
tokens of the drawn tree (`scan_bracketing`), and the code on several lines differs from it by its
blanks only (`isRespaced_layout`), so that from both the drawn tree is read (`drawing_laws`).
-/

namespace PhraseStructure.Tree

open PhraseStructure.Brackets PhraseStructure.Text

section Escaping

/-- Characters without the backslashes that stand directly before reserved ones. -/
def unescape : List Char → List Char
  | [] => []
  | c :: cs => if c = '\\' ∧ cs.head?.any isReserved then unescape cs else c :: unescape cs

/-- A reserved character is written behind a backslash, and any other one as it is. -/
theorem escapeReserved_cons (c : Char) (cs : List Char) : escapeReserved (c :: cs) =
    (if isReserved c then ['\\', c] else [c]) ++ escapeReserved cs :=
  List.flatMap_cons

/-- Escaped text does not start with a reserved character. -/
theorem head?_escapeReserved (cs : List Char) :
    (escapeReserved cs).head?.any isReserved = false := by
  cases cs with
  | nil => rfl
  | cons c cs =>
    rw [escapeReserved_cons]
    split
    · rfl
    · next hc => simpa using hc

/-- The backslashes that are written can be taken away again. -/
theorem unescape_escapeReserved (cs : List Char) : unescape (escapeReserved cs) = cs := by
  induction cs with
  | nil => rfl
  | cons c cs ih =>
    have hrest : unescape (c :: escapeReserved cs) = c :: cs := by
      rw [unescape, head?_escapeReserved, if_neg (by simp), ih]
    rw [escapeReserved_cons]
    split
    · next hc =>
      rw [List.cons_append, unescape, if_pos ⟨rfl, hc⟩]
      exact hrest
    · exact hrest

/-- Different texts are written differently. -/
theorem escapeReserved_injective : Function.Injective escapeReserved :=
  Function.LeftInverse.injective unescape_escapeReserved

/-- Different labels are drawn differently. -/
theorem latexLabel_injective : Function.Injective latexLabel := fun _ _ h =>
  String.toList_inj.mp (escapeReserved_injective (String.ofList_injective h))

/-- A label is drawn with its reserved characters behind backslashes. -/
theorem toList_latexLabel (s : String) : (latexLabel s).toList = escapeReserved s.toList := by
  rw [latexLabel, String.toList_ofList]

/-- Only backslashes are new. -/
theorem mem_of_mem_escapeReserved {c : Char} {cs : List Char} (h : c ∈ escapeReserved cs) :
    c = '\\' ∨ c ∈ cs := by
  obtain ⟨d, hd, hc⟩ := List.mem_flatMap.mp h
  split at hc
  · simp only [List.mem_cons, List.not_mem_nil, or_false] at hc
    rcases hc with rfl | rfl
    · exact .inl rfl
    · exact .inr hd
  · exact .inr (List.mem_singleton.mp hc ▸ hd)

/-- A label that can stand in a word can still do so when it is drawn. -/
theorem isPlain_of_mem_latexLabel {s : String} (h : ∀ c ∈ s.toList, square.isPlain c = true) :
    ∀ c ∈ (latexLabel s).toList, square.isPlain c = true := by
  intro c hc
  rw [toList_latexLabel] at hc
  rcases mem_of_mem_escapeReserved hc with rfl | hmem
  · rfl
  · exact h c hmem

end Escaping

section Drawn

mutual

/-- The tree as it is drawn, with a point before each label. -/
def drawn : Tree String → Tree String
  | leaf word => leaf (latexLabel word)
  | node label children => node ("." ++ latexLabel label) (drawnAll children)

/-- The trees of a sequence as they are drawn. -/
def drawnAll : List (Tree String) → List (Tree String)
  | [] => []
  | t :: ts => drawn t :: drawnAll ts

end

mutual

/-- Different trees are drawn differently. -/
theorem eq_of_drawn_eq (t u : Tree String) (h : t.drawn = u.drawn) : t = u := by
  match t, u with
  | leaf word, leaf word' =>
    have hword : latexLabel word = latexLabel word' := by simpa [drawn] using h
    rw [latexLabel_injective hword]
  | leaf word, node label children => simp [drawn] at h
  | node label children, leaf word => simp [drawn] at h
  | node label children, node label' children' =>
    obtain ⟨hlabel, hchildren⟩ : latexLabel label = latexLabel label' ∧
        drawnAll children = drawnAll children' := by simpa [drawn] using h
    rw [latexLabel_injective hlabel, eq_of_drawnAll_eq children children' hchildren]

/-- Trees that are drawn in the same way are the same. -/
theorem eq_of_drawnAll_eq (ts us : List (Tree String)) (h : drawnAll ts = drawnAll us) :
    ts = us := by
  match ts, us with
  | [], [] => rfl
  | [], u :: us => simp [drawnAll] at h
  | t :: ts, [] => simp [drawnAll] at h
  | t :: ts, u :: us =>
    obtain ⟨hfirst, hrest⟩ : t.drawn = u.drawn ∧ drawnAll ts = drawnAll us := by
      simpa [drawnAll] using h
    rw [eq_of_drawn_eq t u hfirst, eq_of_drawnAll_eq ts us hrest]

end

mutual

/-- Neither points nor backslashes are blanks or brackets. -/
theorem isReadable_drawn (t : Tree String) (h : t.IsReadable square) :
    t.drawn.IsReadable square := by
  match t with
  | leaf word =>
    refine ⟨fun hempty => h.1 ?_, isPlain_of_mem_latexLabel h.2⟩
    exact latexLabel_injective hempty
  | node label children =>
    refine ⟨fun c hc => ?_, areReadable_drawnAll children h.2⟩
    rw [String.toList_append, List.mem_append] at hc
    rcases hc with hpoint | hlabel
    · obtain rfl : c = '.' := by simpa using hpoint
      rfl
    · exact isPlain_of_mem_latexLabel h.1 c hlabel

/-- Trees that are readable stay so when they are drawn. -/
theorem areReadable_drawnAll (ts : List (Tree String)) (h : AreReadable square ts) :
    AreReadable square (drawnAll ts) := by
  match ts with
  | [] => trivial
  | t :: ts => exact ⟨isReadable_drawn t h.1, areReadable_drawnAll ts h.2⟩

end

end Drawn

section OnOneLine

/-- A node is drawn on one line as its label and what is under it, between brackets. -/
theorem toList_bracketing_node (label : String) (children : List (Tree String)) :
    (bracketing (node label children)).toList = '[' :: ((("." ++ latexLabel label).toList ++
      (' ' :: (bracketingAll children).toList)) ++ [']']) := by
  simp [bracketing]

/-- In front of each tree under a node stands a space. -/
theorem toList_bracketingAll_cons (t : Tree String) (ts : List (Tree String)) :
    (bracketingAll (t :: ts)).toList =
      (bracketing t).toList ++ (' ' :: (bracketingAll ts).toList) := by
  simp [bracketingAll]

mutual

/-- The code on a single line holds the tokens of the drawn tree. -/
theorem scan_bracketing (t : Tree String) (h : t.drawn.IsReadable square) {rest : List Char}
    (hrest : Token.Stops square rest) : Token.scan square ((bracketing t).toList ++ rest) =
      t.drawn.tokens ++ Token.scan square rest := by
  match t with
  | leaf word =>
    have hne : (latexLabel word).toList ≠ [] := by simpa using h.1
    rw [bracketing, Token.scan_word h.2 hne hrest, drawn, tokens, List.singleton_append]
  | node label children =>
    have hstops : Token.Stops square
        (' ' :: ((bracketingAll children).toList ++ (']' :: rest))) := Token.stops_cons_iff.mpr rfl
    have hopening := Token.scan_opening h.1 hstops
    have hclosing : Token.scan square (']' :: rest) = Token.closing :: Token.scan square rest :=
      Token.scan_closing (b := square) (by decide) rest
    rw [Token.scan_blank (c := ' ') rfl, scan_bracketingAll children h.2, hclosing] at hopening
    rw [toList_bracketing_node, drawn, tokens]
    simp only [List.cons_append, List.append_assoc, List.nil_append] at hopening ⊢
    exact hopening

/-- The tokens of trees on one line are those of the trees as they are drawn. -/
theorem scan_bracketingAll (ts : List (Tree String)) (h : AreReadable square (drawnAll ts))
    (rest : List Char) : Token.scan square ((bracketingAll ts).toList ++ rest) =
      tokensAll (drawnAll ts) ++ Token.scan square rest := by
  match ts with
  | [] => simp [bracketingAll, drawnAll, tokensAll]
  | t :: ts =>
    have hstops : Token.Stops square (' ' :: ((bracketingAll ts).toList ++ rest)) :=
      Token.stops_cons_iff.mpr rfl
    rw [toList_bracketingAll_cons, List.append_assoc, List.cons_append,
      scan_bracketing t h.1 hstops, Token.scan_blank rfl, scan_bracketingAll ts h.2 rest, drawnAll,
      tokensAll, List.append_assoc]

end

mutual

/-- In the code every bracket has its partner. -/
theorem isBalanced_bracketing (t : Tree String) (h : t.drawn.IsReadable square) :
    square.IsBalanced (bracketing t).toList := by
  match t with
  | leaf word =>
    rw [bracketing]
    exact .of_isFree (isFree_of_isPlain h.2)
  | node label children =>
    have hinner := IsBalanced.append (.of_isFree (isFree_of_isPlain h.1))
      (isBalanced_space_bracketingAll children h.2)
    rw [toList_bracketing_node]
    exact (IsBracketing.enclosed (b := square) (by decide) hinner).isBalanced

/-- Readable trees on one line are balanced, with a space in front. -/
theorem isBalanced_space_bracketingAll (ts : List (Tree String))
    (h : AreReadable square (drawnAll ts)) :
    square.IsBalanced (' ' :: (bracketingAll ts).toList) := by
  have hspace : square.IsBalanced [' '] := .of_isFree (isFree_singleton.mpr (ne_of_isBlank rfl))
  match ts with
  | [] => simpa [bracketingAll] using hspace
  | t :: ts =>
    rw [toList_bracketingAll_cons, ← List.singleton_append]
    exact .append hspace
      (.append (isBalanced_bracketing t h.1) (isBalanced_space_bracketingAll ts h.2))

end

/-- The code of a node on a single line is a layout of the drawn node. -/
theorem isLayout_bracketing {label : String} {children : List (Tree String)}
    (h : (node label children).drawn.IsReadable square) :
    IsLayout square (node label children).drawn (bracketing (node label children)).toList where
  enclosed := by
    refine ⟨_, toList_bracketing_node label children, ?_⟩
    exact .append (.of_isFree (isFree_of_isPlain h.1)) (isBalanced_space_bracketingAll children h.2)
  tokens_eq := by
    have hscan := scan_bracketing (node label children) h (show Token.Stops square [] by
      simp [Token.Stops])
    simpa only [List.append_nil, Token.scan_nil] using hscan

end OnOneLine

section OnSeveralLines

variable (indent : Nat)

/-- A line feed and the spaces in front of a line. -/
def lineStart (indent : Nat) : List Char := '\n' :: (spaces indent).toList

/-- What stands between two lines is a gap. -/
theorem isGap_lineStart : IsGap (lineStart indent) := by
  simp [IsGap, lineStart, spaces, List.mem_replicate]

/-- A node with nodes under it is drawn on several lines, and any other on one. -/
theorem toList_layout_node (label : String) (children : List (Tree String)) :
    (layout indent (node label children)).toList =
      if children.any isNode then
        '[' :: ((("." ++ latexLabel label).toList ++
          ((layoutAll (indent + 2) children).toList ++ lineStart indent)) ++ [']'])
      else (bracketing (node label children)).toList := by
  rw [layout]
  split
  · simp [lineStart]
  · rfl

/-- Each tree under a node starts on a line of its own. -/
theorem toList_layoutAll_cons (t : Tree String) (ts : List (Tree String)) :
    (layoutAll indent (t :: ts)).toList =
      lineStart indent ++ ((layout indent t).toList ++ (layoutAll indent ts).toList) := by
  simp [layoutAll, lineStart]

mutual

/-- The code on several lines has a line feed and spaces for some of the spaces on a single line. -/
theorem isRespaced_layout (indent : Nat) (t : Tree String) :
    IsRespaced (bracketing t).toList (layout indent t).toList := by
  match t with
  | leaf word =>
    rw [bracketing, layout]
    exact .refl _
  | node label children =>
    rw [toList_layout_node]
    split
    · rw [toList_bracketing_node]
      exact .char '[' (.append (.append (.refl _)
        (isRespaced_layoutAll (indent + 2) children indent)) (.refl _))
    · exact .refl _

/-- The last line starts for the closing bracket, and not for another tree. -/
theorem isRespaced_layoutAll (indent : Nat) (ts : List (Tree String)) (last : Nat) :
    IsRespaced (' ' :: (bracketingAll ts).toList)
      ((layoutAll indent ts).toList ++ lineStart last) := by
  match ts with
  | [] =>
    have hgap := IsRespaced.blank (c := ' ') rfl (isGap_lineStart last) (List.cons_ne_nil _ _) .nil
    simpa [bracketingAll, layoutAll] using hgap
  | t :: ts =>
    rw [toList_bracketingAll_cons, toList_layoutAll_cons, List.append_assoc, List.append_assoc]
    exact .blank rfl (isGap_lineStart indent) (List.cons_ne_nil _ _)
      (.append (isRespaced_layout indent t) (isRespaced_layoutAll indent ts last))

end

end OnSeveralLines

/-- From each layout of the drawn tree the drawn tree is read. -/
theorem read_of_isLayout {label : String} {children : List (Tree String)} {code : String}
    (h : IsLayout square (node label children).drawn code.toList) :
    Tree.read (.text code) (.text "[]") = ⟨[], .ok (node label children).drawn⟩ := by
  have hsquare : square.opening ≠ square.closing := by decide
  have htext : "[]" = square.text := rfl
  rw [htext, read_text hsquare]
  exact h.readChars hsquare

/-- Two trees are equal if the same code is read as what is drawn for the one and for the other. -/
theorem eq_of_read_drawn {t t' : Tree String} {code : String}
    (h : Tree.read (.text code) (.text "[]") = ⟨[], .ok t.drawn⟩)
    (h' : Tree.read (.text code) (.text "[]") = ⟨[], .ok t'.drawn⟩) : t = t' := by
  rw [h, Logged.mk.injEq, Except.ok.injEq] at h'
  exact eq_of_drawn_eq t t' h'.2

/-- In the code that draws a tree in colour its bracketing is indented by eight spaces. -/
theorem exists_tikzTree_eq (nodeColor leafColor : String) (t : Tree String) :
    ∃ before after,
      tikzTree nodeColor leafColor t = before ++ "\\Tree " ++ layout 8 t ++ after := by
  obtain ⟨front, rest, hjoin⟩ : ("  \\Tree " ++ layout 8 t).toList <:+:
      (tikzTree nodeColor leafColor t).toList := by
    rw [tikzTree, joinStrings, String.toList_ofList]
    exact infix_join _ (List.mem_map_of_mem (by simp))
  refine ⟨String.ofList front ++ "  ", String.ofList rest, String.toList_inj.mp ?_⟩
  rw [← hjoin]
  simp

/-- The code that draws a tree whose labels and words hold neither blanks nor square brackets, and
whose words are not empty, is read as the tree with a point before each label and with escaped
labels and words, from a single line as from several ones, at whatever indent. As different labels
and words are escaped differently, different trees have different code. On a single line and on
several lines the code of any tree consists of the same words. -/
theorem drawing_laws {label : String} {children : List (Tree String)}
    (h : (node label children).IsReadable square) :
    (∃ code, qtree (node label children) = "\\Tree " ++ code ∧
        Tree.read (.text code) (.text "[]") = ⟨[], .ok (node label children).drawn⟩) ∧
      (∀ indent, Tree.read (.text (layout indent (node label children))) (.text "[]") =
        ⟨[], .ok (node label children).drawn⟩) ∧
      (∀ nodeColor leafColor, ∃ before after, tikzTree nodeColor leafColor (node label children) =
        before ++ "\\Tree " ++ layout 8 (node label children) ++ after) ∧
      (∀ label' children', (node label' children').IsReadable square →
        (qtree (node label children) = qtree (node label' children') ∨
            ∃ indent, layout indent (node label children) = layout indent (node label' children')) →
          node label children = node label' children') ∧
      Function.Injective latexLabel ∧
      ∀ (t : Tree String) (indent : Nat),
        words (layout indent t).toList = words (bracketing t).toList := by
  have hlayout : ∀ {label children}, (node label children).IsReadable square →
      IsLayout square (node label children).drawn (bracketing (node label children)).toList :=
    fun h => isLayout_bracketing (isReadable_drawn _ h)
  have hflat : ∀ {label children}, (node label children).IsReadable square →
      Tree.read (.text (bracketing (node label children))) (.text "[]") =
        ⟨[], .ok (node label children).drawn⟩ := fun h => read_of_isLayout (hlayout h)
  have hbroken : ∀ {label children} indent, (node label children).IsReadable square →
      Tree.read (.text (layout indent (node label children))) (.text "[]") =
        ⟨[], .ok (node label children).drawn⟩ :=
    fun indent h => read_of_isLayout ((hlayout h).respaced (isRespaced_layout indent _))
  refine ⟨⟨_, rfl, hflat h⟩, fun indent => hbroken indent h, fun nodeColor leafColor => ?_,
    fun label' children' h' hcode => ?_, latexLabel_injective,
    fun t indent => (isRespaced_layout indent t).words_eq⟩
  · exact exists_tikzTree_eq nodeColor leafColor _
  · rcases hcode with hcode | ⟨indent, hcode⟩
    · rw [qtree, qtree, String.append_right_inj] at hcode
      exact eq_of_read_drawn (hflat h) (hcode ▸ hflat h')
    · exact eq_of_read_drawn (hbroken indent h) (hcode ▸ hbroken indent h')

/-- A label and a word with reserved characters, on a single line and on several ones. -/
theorem drawing_laws_reserved :
    (node "NP_1" [node "D" [leaf "the"], leaf "$"]).IsReadable square ∧
      qtree (node "NP_1" [node "D" [leaf "the"], leaf "$"]) =
        "\\Tree [.NP\\_1 [.D the ] \\$ ]" ∧
      layout 1 (node "NP_1" [node "D" [leaf "the"], leaf "$"]) =
        "[.NP\\_1\n   [.D the ]\n   \\$\n ]" ∧
      Tree.read (.text "[.NP\\_1 [.D the ] \\$ ]") (.text "[]") =
        ⟨[], .ok (node ".NP\\_1" [node ".D" [leaf "the"], leaf "\\$"])⟩ ∧
      Tree.read (.text "[.NP\\_1\n   [.D the ]\n   \\$\n ]") (.text "[]") =
        ⟨[], .ok (node ".NP\\_1" [node ".D" [leaf "the"], leaf "\\$"])⟩ := by
  have hreadable : (node "NP_1" [node "D" [leaf "the"], leaf "$"]).IsReadable square := by
    simp [IsReadable, AreReadable]
    decide
  have hqtree : qtree (node "NP_1" [node "D" [leaf "the"], leaf "$"]) =
      "\\Tree " ++ "[.NP\\_1 [.D the ] \\$ ]" := by decide +kernel
  have hlayout : layout 1 (node "NP_1" [node "D" [leaf "the"], leaf "$"]) =
      "[.NP\\_1\n   [.D the ]\n   \\$\n ]" := by decide +kernel
  have hdrawn : (node "NP_1" [node "D" [leaf "the"], leaf "$"]).drawn =
      node ".NP\\_1" [node ".D" [leaf "the"], leaf "\\$"] := by
    simp only [drawn, drawnAll]
    decide +kernel
  obtain ⟨⟨code, hcode, hread⟩, hbroken, -⟩ := drawing_laws hreadable
  rw [hqtree] at hcode
  obtain rfl := (String.append_right_inj _).mp hcode
  refine ⟨hreadable, hqtree, hlayout, hdrawn ▸ hread, ?_⟩
  have hlines := hbroken 1
  rwa [hlayout, hdrawn] at hlines

end PhraseStructure.Tree
