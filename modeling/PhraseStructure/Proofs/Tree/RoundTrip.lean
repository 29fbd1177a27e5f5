import PhraseStructure.Proofs.Tree.Acceptance
import PhraseStructure.Proofs.Tree.Token
import PhraseStructure.Tree.Printing

/-!
# Reading what was written

A tree written on a single line is read back unchanged exactly if it is readable: its labels and
leaves hold neither blanks nor brackets, and no leaf is empty. In one direction the tokens of the
written text are those of the tree (`scan_flat`); in the other, only readable trees are ever built
(`Builder.IsReadable.read`).
-/

namespace PhraseStructure

open Brackets

variable {b : Brackets} {cs : List Char}

namespace Tree

mutual

/-- Labels hold neither blanks nor brackets, and neither do leaves, which moreover are not empty. -/
def IsReadable (b : Brackets) : Tree String → Prop
  | leaf word => word ≠ "" ∧ ∀ c ∈ word.toList, b.isPlain c = true
  | node label children => (∀ c ∈ label.toList, b.isPlain c = true) ∧ AreReadable b children

/-- Every tree of a sequence is readable. -/
def AreReadable (b : Brackets) : List (Tree String) → Prop
  | [] => True
  | t :: ts => IsReadable b t ∧ AreReadable b ts

end

/-- Two sequences of trees can be read together if both can be read. -/
theorem areReadable_append {ts us : List (Tree String)} :
    AreReadable b (ts ++ us) ↔ AreReadable b ts ∧ AreReadable b us := by
  induction ts with
  | nil => simp [AreReadable]
  | cons t ts ih => simp [AreReadable, ih, and_assoc]

/-- The order of trees does not matter for whether they can be read. -/
theorem areReadable_reverse {ts : List (Tree String)} :
    AreReadable b ts.reverse ↔ AreReadable b ts := by
  induction ts with
  | nil => simp
  | cons t ts ih => simp [areReadable_append, AreReadable, ih, and_comm]

/-! ### The characters of a written tree -/

/-- A leaf is written as its word. -/
@[simp] theorem toList_flat_leaf (e : Enclosure) (word : String) :
    (flat e (.leaf word)).toList = word.toList := by
  simp [flat]

/-- A node is written as its label and what is under it, between brackets. -/
@[simp] theorem toList_flat_node (b : Brackets) (label : String) (children : List (Tree String)) :
    (flat b.enclosure (.node label children)).toList =
      b.opening ::
        (label.toList ++ ((flatAll b.enclosure children).toList ++ [b.closing])) := by
  simp [flat, Brackets.enclosure]

/-- Nothing is written for no trees. -/
@[simp] theorem toList_flatAll_nil (e : Enclosure) : (flatAll e []).toList = [] := by
  simp [flatAll]

/-- In front of each tree under a node stands a space. -/
@[simp] theorem toList_flatAll_cons (e : Enclosure) (t : Tree String) (ts : List (Tree String)) :
    (flatAll e (t :: ts)).toList = ' ' :: ((flat e t).toList ++ (flatAll e ts).toList) := by
  simp [flatAll]

/-- Behind a label there is a space or a bracket. -/
theorem stops_flatAll {rest : List Char} (ts : List (Tree String)) (h : Token.Stops b rest) :
    Token.Stops b ((flatAll b.enclosure ts).toList ++ rest) := by
  cases ts with
  | nil => simpa using h
  | cons t ts =>
    rw [toList_flatAll_cons, List.cons_append, Token.stops_cons_iff]
    exact Token.isPlain_of_isBlank rfl

mutual

/-- A readable tree is written as its tokens. -/
theorem scan_flat (hb : b.opening ≠ b.closing) (t : Tree String) (h : t.IsReadable b)
    {rest : List Char} (hrest : Token.Stops b rest) :
    Token.scan b ((t.flat b.enclosure).toList ++ rest) = t.tokens ++ Token.scan b rest := by
  match t with
  | .leaf word =>
    have hne : word.toList ≠ [] := by simpa using h.1
    rw [toList_flat_leaf, Token.scan_word h.2 hne hrest, tokens, List.singleton_append]
  | .node label children =>
    have hend : Token.Stops b (b.closing :: rest) :=
      Token.stops_cons_iff.mpr (Token.isPlain_closing b)
    rw [toList_flat_node, List.cons_append, List.append_assoc, List.append_assoc,
      List.singleton_append, Token.scan_opening h.1 (stops_flatAll children hend),
      scan_flatAll hb children h.2 hend, Token.scan_closing hb, tokens]
    simp

/-- The tokens of readable trees on a single line are those of the trees. -/
theorem scan_flatAll (hb : b.opening ≠ b.closing) (ts : List (Tree String))
    (h : AreReadable b ts) {rest : List Char} (hrest : Token.Stops b rest) :
    Token.scan b ((flatAll b.enclosure ts).toList ++ rest) =
      tokensAll ts ++ Token.scan b rest := by
  match ts with
  | [] => simp [tokensAll]
  | t :: ts =>
    rw [toList_flatAll_cons, List.cons_append, List.append_assoc, Token.scan_blank rfl,
      scan_flat hb t h.1 (stops_flatAll ts hrest), scan_flatAll hb ts h.2 hrest, tokensAll,
      List.append_assoc]

end

/-- A written node is a bracketing if in what is written for its children every bracket has its
partner. -/
theorem isBracketing_flat_node (hb : b.opening ≠ b.closing) {label : String}
    {children : List (Tree String)} (hlabel : ∀ c ∈ label.toList, b.isPlain c = true)
    (hchildren : b.IsBalanced (flatAll b.enclosure children).toList) :
    b.IsBracketing ((node label children).flat b.enclosure).toList := by
  rw [toList_flat_node, ← List.append_assoc]
  exact .enclosed hb (.append (.of_isFree (isFree_of_isPlain hlabel)) hchildren)

mutual

/-- In a written tree every bracket has its partner. -/
theorem isBalanced_flat (hb : b.opening ≠ b.closing) (t : Tree String) (h : t.IsReadable b) :
    b.IsBalanced (t.flat b.enclosure).toList := by
  match t with
  | .leaf word =>
    rw [toList_flat_leaf]
    exact .of_isFree (isFree_of_isPlain h.2)
  | .node label children =>
    exact (isBracketing_flat_node hb h.1 (isBalanced_flatAll hb children h.2)).isBalanced

/-- Readable trees on a single line are balanced. -/
theorem isBalanced_flatAll (hb : b.opening ≠ b.closing) (ts : List (Tree String))
    (h : AreReadable b ts) : b.IsBalanced (flatAll b.enclosure ts).toList := by
  match ts with
  | [] =>
    rw [toList_flatAll_nil]
    exact .of_isFree (by simp [IsFree])
  | t :: ts =>
    have hspace : b.IsFree [' '] := isFree_singleton.mpr (ne_of_isBlank rfl)
    rw [toList_flatAll_cons, ← List.singleton_append]
    exact .append (.of_isFree hspace)
      (.append (isBalanced_flat hb t h.1) (isBalanced_flatAll hb ts h.2))

end

end Tree

/-! ### Trees that are built -/

/-- The label and the word of a token hold neither blanks nor brackets. -/
def Token.IsPlain (b : Brackets) : Token → Prop
  | .opening label => ∀ c ∈ label, b.isPlain c = true
  | .word text => text ≠ [] ∧ ∀ c ∈ text, b.isPlain c = true
  | .closing => True

/-- The labels and words of tokens hold neither blanks nor brackets. -/
theorem Token.isPlain_of_mem_scan (b : Brackets) (cs : List Char) :
    ∀ token ∈ Token.scan b cs, token.IsPlain b := by
  have htake : ∀ cs : List Char, ∀ c ∈ cs.takeWhile b.isPlain, b.isPlain c = true :=
    fun cs c hc => List.mem_takeWhile_imp hc
  fun_induction Token.scan b cs with
  | case1 => simp
  | case2 c cs _ hblank ih => exact ih
  | case3 cs _ hblank ih => exact List.forall_mem_cons.mpr ⟨htake cs, ih⟩
  | case4 cs _ hblank hopening ih => exact List.forall_mem_cons.mpr ⟨trivial, ih⟩
  | case5 c cs _ hblank hopening hclosing ih =>
    have hc : b.isPlain c = true := isPlain_iff.mpr ⟨by simpa using hblank, hopening, hclosing⟩
    exact List.forall_mem_cons.mpr
      ⟨⟨List.cons_ne_nil _ _, List.forall_mem_cons.mpr ⟨hc, htake cs⟩⟩, ih⟩

/-- The label and the trees read so far are readable. -/
def OpenNode.IsReadable (b : Brackets) (n : OpenNode) : Prop :=
  (∀ c ∈ n.label.toList, b.isPlain c = true) ∧ Tree.AreReadable b n.children

namespace OpenNode.IsReadable

variable {n : OpenNode} {t : Tree String}

/-- A node stays readable when it is closed. -/
theorem close (h : n.IsReadable b) : n.close.IsReadable b :=
  ⟨h.1, Tree.areReadable_reverse.mpr h.2⟩

/-- A readable tree under a readable node leaves it readable. -/
theorem push (h : n.IsReadable b) (ht : t.IsReadable b) : (n.push t).IsReadable b :=
  ⟨h.1, ht, h.2⟩

end OpenNode.IsReadable

/-- Everything that was built, and everything that is being built, is readable. -/
structure Builder.IsReadable (b : Brackets) (s : Builder) : Prop where
  stack : ∀ n ∈ s.stack, n.IsReadable b
  built : ∀ t ∈ s.built, t.IsReadable b

namespace Builder.IsReadable

variable {s s' : Builder} {token : Token}

/-- Nothing is built at the start. -/
theorem start (b : Brackets) : Builder.start.IsReadable b where
  stack := by simp [Builder.start]
  built := by simp [Builder.start]

/-- A token without blanks and brackets leaves what is built readable. -/
theorem take (hs : s.IsReadable b) (htoken : token.IsPlain b) (h : s.take token = .ok s') :
    s'.IsReadable b := by
  obtain ⟨stack, built⟩ := s
  cases token with
  | opening label =>
    cases h
    refine ⟨List.forall_mem_cons.mpr ⟨⟨?_, trivial⟩, hs.stack⟩, hs.built⟩
    simpa [Token.IsPlain] using htoken
  | word text =>
    rcases stack with - | ⟨n, rest⟩
    · simp [Builder.take, addWord] at h
    · cases h
      obtain ⟨hn, hrest⟩ := List.forall_mem_cons.mp hs.stack
      have hword : (Tree.leaf (String.ofList text)).IsReadable b := by
        simpa [Tree.IsReadable, Token.IsPlain] using htoken
      exact ⟨List.forall_mem_cons.mpr ⟨hn.push hword, hrest⟩, hs.built⟩
  | closing =>
    rcases stack with - | ⟨n, - | ⟨m, rest⟩⟩
    · simp [Builder.take, finish] at h
    · cases h
      have hn := hs.stack n List.mem_cons_self
      exact ⟨by simp, by simpa using hn.close⟩
    · cases h
      obtain ⟨hn, hrest⟩ := List.forall_mem_cons.mp hs.stack
      obtain ⟨hm, hrest⟩ := List.forall_mem_cons.mp hrest
      exact ⟨List.forall_mem_cons.mpr ⟨hm.push hn.close, hrest⟩, hs.built⟩

/-- Tokens without blanks and brackets leave what is built readable. -/
theorem takeAll {tokens : List Token} (hs : s.IsReadable b)
    (htokens : ∀ token ∈ tokens, token.IsPlain b) (h : s.takeAll tokens = .ok s') :
    s'.IsReadable b := by
  induction tokens generalizing s with
  | nil =>
    cases h
    exact hs
  | cons token rest ih =>
    obtain ⟨htoken, hrest⟩ := List.forall_mem_cons.mp htokens
    rw [Builder.takeAll] at h
    split at h
    · cases h
    · next s₁ hs₁ => exact ih (hs.take htoken hs₁) hrest h

/-- Whatever the text, only readable trees are built from it. -/
theorem read (hs : s.IsReadable b) (h : s.read b cs = .ok s') : s'.IsReadable b := by
  rw [read_eq_takeAll] at h
  exact hs.takeAll (Token.isPlain_of_mem_scan b cs) h

end Builder.IsReadable

namespace Tree

/-- A tree that is read from a text with a bracket is readable. -/
theorem isReadable_of_readChars (hb : b.opening ≠ b.closing) {t : Tree String}
    (hbracket : b.opening ∈ cs) (h : (readChars b cs).result = .ok t) : t.IsReadable b := by
  have hnotfree : ¬b.IsFree cs := fun hfree => (hfree _ hbracket).1 rfl
  obtain ⟨-, piece, -, -, -, -, hbuilt⟩ := exists_isBracketing_of_readChars hb hnotfree h
  exact ((Builder.IsReadable.start b).read hbuilt).built t rfl

/-- A readable tree is written with its tokens. -/
theorem scan_flat_eq_tokens (hb : b.opening ≠ b.closing) {t : Tree String} (h : t.IsReadable b) :
    Token.scan b (t.flat b.enclosure).toList = t.tokens := by
  have hscan := scan_flat hb t h (show Token.Stops b [] by simp [Token.Stops])
  simpa only [List.append_nil, Token.scan_nil] using hscan

/-- A readable node that is written is read again, and nothing is logged. -/
theorem readChars_flat (hb : b.opening ≠ b.closing) {label : String}
    {children : List (Tree String)} (h : (node label children).IsReadable b) :
    readChars b ((node label children).flat b.enclosure).toList =
      ⟨[], .ok (node label children)⟩ := by
  have hpiece := isBracketing_flat_node hb h.1 (isBalanced_flatAll hb children h.2)
  obtain ⟨t, hbuilt, ht⟩ := readChars_bracketing hb hpiece
  rw [Builder.read_eq_takeAll, scan_flat_eq_tokens hb h, Builder.takeAll_tokens_node] at hbuilt
  cases hbuilt
  exact ht

/-- Brackets that are given as a text enclose as they are. -/
theorem written_text (b : Brackets) (t : Tree String) :
    t.written (.text b.text) = .ok (t.flat b.enclosure) := by
  simp [written, Enclosure.read, Datum.elements?, Brackets.text, Brackets.toChars, Datum.plain,
    Brackets.enclosure]

/-- A tree is read back unchanged from what is written for it exactly if it is readable. -/
theorem read_written_eq_iff (hb : b.opening ≠ b.closing) (label : String)
    (children : List (Tree String)) :
    (∃ s, (node label children).written (.text b.text) = .ok s ∧
      (Tree.read (.text s) (.text b.text)).result = .ok (node label children)) ↔
      (node label children).IsReadable b := by
  simp only [written_text, Except.ok.injEq, exists_eq_left', read_text hb]
  constructor
  · exact isReadable_of_readChars hb (by simp)
  · intro h
    rw [readChars_flat hb h]

/-- A leaf with a bracket in it is not read back, and a node without a label is. -/
theorem read_written_unlabelled :
    Brackets.round.opening ≠ Brackets.round.closing ∧
    (∃ s, (node "" [leaf "a", node "" []]).written (.text Brackets.round.text) = .ok s ∧
      (Tree.read (.text s) (.text Brackets.round.text)).result =
        .ok (node "" [leaf "a", node "" []])) ∧
    ¬∃ s, (node "S" [leaf "a)"]).written (.text Brackets.round.text) = .ok s ∧
      (Tree.read (.text s) (.text Brackets.round.text)).result = .ok (node "S" [leaf "a)"]) := by
  have hb : Brackets.round.opening ≠ Brackets.round.closing := by decide
  refine ⟨hb, (read_written_eq_iff hb "" _).mpr ?_, fun h => ?_⟩
  · simp [IsReadable, AreReadable]
    decide
  · have hword := ((read_written_eq_iff hb "S" _).mp h).2.1.2
    exact absurd (hword ')' (by decide)) (by decide)

end Tree

end PhraseStructure
