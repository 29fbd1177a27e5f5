import PhraseStructure.Proofs.Bracketing

/-!
# Tokens of bracketed text

A bracketed text is a sequence of tokens: an opening bracket together with the label directly after
it, a word, or a closing bracket. Blanks only separate. Building a tree from a text is taking its
tokens one by one (`Builder.read_eq_takeAll`), and a tree consists of the tokens that build it
(`Builder.takeAll_tokens_node`).
-/

namespace PhraseStructure

/-- A token of bracketed text. -/
inductive Token
  /-- An opening bracket and the label after it, which may be empty. -/
  | opening (label : List Char)
  | word (text : List Char)
  | closing
  deriving DecidableEq, Repr

/-- The tokens of a text. -/
def Token.scan (b : Brackets) : List Char → List Token
  | [] => []
  | c :: cs =>
      have _hle : (cs.dropWhile b.isPlain).length ≤ cs.length :=
        (List.dropWhile_suffix b.isPlain).length_le
      if Text.isBlank c then scan b cs
      else if c = b.opening then
        opening (cs.takeWhile b.isPlain) :: scan b (cs.dropWhile b.isPlain)
      else if c = b.closing then closing :: scan b cs
      else word (c :: cs.takeWhile b.isPlain) :: scan b (cs.dropWhile b.isPlain)
termination_by cs => cs.length
decreasing_by
  all_goals simp only [List.length_cons]
  all_goals omega

namespace Token

variable {b : Brackets} {c : Char} {cs label word rest : List Char}

/-- No label or word goes on at the start of the text. -/
def Stops (b : Brackets) (cs : List Char) : Prop := ∀ c ∈ cs.head?, b.isPlain c = false

/-- A text goes on with no label or word if its first character cannot stand in one. -/
theorem stops_cons_iff : Stops b (c :: cs) ↔ b.isPlain c = false := by simp [Stops]

/-- A closing bracket stands in no label or word. -/
theorem isPlain_closing (b : Brackets) : b.isPlain b.closing = false := by
  simp [Brackets.isPlain]

/-- A blank stands in no label or word. -/
theorem isPlain_of_isBlank (h : Text.isBlank c = true) : b.isPlain c = false := by
  simp [Brackets.isPlain, h]

/-- A word ends where the text behind it goes on with none. -/
theorem takeWhile_append_of_stops (hword : ∀ c ∈ word, b.isPlain c = true) (hrest : Stops b rest) :
    (word ++ rest).takeWhile b.isPlain = word := by
  rw [List.takeWhile_append_of_pos hword]
  cases rest with
  | nil => simp
  | cons c cs => simp [stops_cons_iff.mp hrest]

/-- Behind a word is the text that goes on with none. -/
theorem dropWhile_append_of_stops (hword : ∀ c ∈ word, b.isPlain c = true) (hrest : Stops b rest) :
    (word ++ rest).dropWhile b.isPlain = rest := by
  rw [List.dropWhile_append_of_pos hword]
  cases rest with
  | nil => simp
  | cons c cs => simp [stops_cons_iff.mp hrest]

/-- The empty text has no tokens. -/
@[simp] theorem scan_nil (b : Brackets) : scan b [] = [] := by rw [scan]

/-- A blank is skipped. -/
theorem scan_blank (h : Text.isBlank c = true) (cs : List Char) :
    scan b (c :: cs) = scan b cs := by
  simp [scan, h]

/-- An opening bracket and the label behind it are one token. -/
theorem scan_opening (hlabel : ∀ c ∈ label, b.isPlain c = true) (hrest : Stops b rest) :
    scan b (b.opening :: (label ++ rest)) = opening label :: scan b rest := by
  rw [scan]
  simp [b.opening_visible, takeWhile_append_of_stops hlabel hrest,
    dropWhile_append_of_stops hlabel hrest]

/-- A closing bracket is a token. -/
theorem scan_closing (hb : b.opening ≠ b.closing) (cs : List Char) :
    scan b (b.closing :: cs) = closing :: scan b cs := by
  rw [scan]
  simp [b.closing_visible, hb.symm]

/-- A word is one token. -/
theorem scan_word (hword : ∀ c ∈ word, b.isPlain c = true) (hne : word ≠ [])
    (hrest : Stops b rest) : scan b (word ++ rest) = Token.word word :: scan b rest := by
  obtain ⟨c, cs, rfl⟩ := List.exists_cons_of_ne_nil hne
  obtain ⟨hblank, hopening, hclosing⟩ := Brackets.isPlain_iff.mp (hword c List.mem_cons_self)
  have hcs : ∀ c ∈ cs, b.isPlain c = true := fun c hc => hword c (List.mem_cons_of_mem _ hc)
  rw [List.cons_append, scan]
  simp [hblank, hopening, hclosing, takeWhile_append_of_stops hcs hrest,
    dropWhile_append_of_stops hcs hrest]

end Token

namespace Builder

/-- The state behind one token. -/
def take (s : Builder) : Token → Except Fault Builder
  | .opening label => .ok (s.begin label)
  | .word text => s.addWord text
  | .closing => s.finish

/-- The state behind a sequence of tokens. -/
def takeAll (s : Builder) : List Token → Except Fault Builder
  | [] => .ok s
  | token :: rest =>
      match s.take token with
      | .error fault => .error fault
      | .ok s => s.takeAll rest

/-- The tokens behind a first one are taken from the state that it leaves. -/
theorem takeAll_cons_of_take {s s' : Builder} {token : Token} (h : s.take token = .ok s')
    (rest : List Token) : s.takeAll (token :: rest) = s'.takeAll rest := by
  simp [takeAll, h]

/-- A text is read token by token. -/
theorem read_eq_takeAll (b : Brackets) (s : Builder) (cs : List Char) :
    s.read b cs = s.takeAll (Token.scan b cs) := by
  fun_induction s.read b cs with
  | case1 s => simp [takeAll]
  | case2 s c cs _ hblank ih => simp [Token.scan, hblank, ih]
  | case3 s cs _ hblank ih => simp [Token.scan, hblank, takeAll, take, ih]
  | case4 s cs _ fault hfinish hblank hopening =>
    simp [Token.scan, hblank, hopening, takeAll, take, hfinish]
  | case5 s cs _ s' hfinish hblank hopening ih =>
    simp [Token.scan, hblank, hopening, takeAll, take, hfinish, ih]
  | case6 s c cs _ hblank hopening hclosing fault hword =>
    simp [Token.scan, hblank, hopening, hclosing, takeAll, take, hword]
  | case7 s c cs _ hblank hopening hclosing s' hword ih =>
    simp [Token.scan, hblank, hopening, hclosing, takeAll, take, hword, ih]

end Builder

namespace Tree

mutual

/-- The tokens that a tree consists of. -/
def tokens : Tree String → List Token
  | leaf word => [.word word.toList]
  | node label children => .opening label.toList :: (tokensAll children ++ [.closing])

/-- The tokens of a sequence of trees. -/
def tokensAll : List (Tree String) → List Token
  | [] => []
  | t :: ts => tokens t ++ tokensAll ts

end

end Tree

namespace Builder

/-- The node with further trees under it. -/
def pushAll (n : OpenNode) (ts : List (Tree String)) : OpenNode :=
  { n with children := ts.reverse ++ n.children }

mutual

/-- The tokens of a tree put it under the innermost open node. -/
theorem takeAll_tokens (t : Tree String) (n : OpenNode) (stack : List OpenNode)
    (built : Option (Tree String)) (rest : List Token) :
    takeAll ⟨n :: stack, built⟩ (t.tokens ++ rest) = takeAll ⟨n.push t :: stack, built⟩ rest := by
  match t with
  | .leaf word =>
    rw [Tree.tokens, List.singleton_append]
    exact takeAll_cons_of_take (by simp [take, addWord]) rest
  | .node label children =>
    rw [Tree.tokens, List.cons_append, List.append_assoc, takeAll_cons_of_take rfl, begin,
      takeAll_tokensAll children, List.singleton_append]
    refine takeAll_cons_of_take ?_ rest
    simp [take, finish, pushAll, OpenNode.close]

/-- The tokens of a sequence of trees put these trees under the innermost node. -/
theorem takeAll_tokensAll (ts : List (Tree String)) (n : OpenNode) (stack : List OpenNode)
    (built : Option (Tree String)) (rest : List Token) :
    takeAll ⟨n :: stack, built⟩ (Tree.tokensAll ts ++ rest) =
      takeAll ⟨pushAll n ts :: stack, built⟩ rest := by
  match ts with
  | [] => simp [Tree.tokensAll, pushAll]
  | t :: ts =>
    rw [Tree.tokensAll, List.append_assoc, takeAll_tokens t, takeAll_tokensAll ts]
    simp [pushAll, OpenNode.push]

end

/-- The tokens of a node, read from the start, build that node. -/
theorem takeAll_tokens_node (label : String) (children : List (Tree String)) :
    start.takeAll (Tree.tokens (.node label children)) =
      .ok ⟨[], some (.node label children)⟩ := by
  rw [Tree.tokens, takeAll_cons_of_take rfl, start, begin, takeAll_tokensAll]
  simp [takeAll, take, finish, pushAll, OpenNode.close]

end Builder

end PhraseStructure
