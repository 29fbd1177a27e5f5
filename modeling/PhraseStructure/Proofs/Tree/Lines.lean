import PhraseStructure.Proofs.Text.Lines
import PhraseStructure.Proofs.Tree.Layout
import PhraseStructure.Proofs.Tree.Positions

/-!
# The lines of a tree

A tree that is broken over lines has one line for each position above which every node is broken
(`shown`). The line is indented by the depth of the position, it holds the whole node if this fits
into the room there and the label or the word otherwise, and it ends with a closing bracket for each
broken node of which nothing is shown behind it (`lineAt`). Under a broken node these are the lines
of its children, two characters deeper, and there is one more bracket behind the last of all
(`join_lineWith_node`). So the text is joined of these lines (`join_lineAt`), and where no label and
no word holds a line feed it is split into them (`splitAtFeeds_pretty`, `printed_lines`).
-/

namespace PhraseStructure.Tree

open Text

variable {b : Brackets} {room indent margin : Int} {t u v : Tree String} {label : String}
  {children ts : List (Tree String)} {path q : List Nat} {i j : Nat}

section Lines

/-- A node that is shorter than the room for it when it is written on a single line. -/
def fits (b : Brackets) (room : Int) : Tree String → Bool
  | leaf _ => false
  | node label children => decide ((flat b.enclosure (node label children)).length < room)

/-- A node that fits stands at the position. Each level takes two characters of the room. -/
def fitsAt (b : Brackets) (room : Int) (t : Tree String) (path : List Nat) : Bool :=
  (t.get? path).any (fits b (room - 2 * path.length))

/-- A node that does not fit stands at the position. -/
def breaksAt (b : Brackets) (room : Int) (t : Tree String) (path : List Nat) : Bool :=
  (t.get? path).any fun u => u.isNode && !fits b (room - 2 * path.length) u

/-- No node above the position fits. -/
def IsShown (b : Brackets) (room : Int) (t : Tree String) (path : List Nat) : Prop :=
  ∀ n < path.length, fitsAt b room t (path.take n) = false

instance : Decidable (IsShown b room t path) :=
  inferInstanceAs (Decidable (∀ n < path.length, _))

/-- The positions that are shown, each before those below it. -/
def shown (b : Brackets) (room : Int) (t : Tree String) : List (List Nat) :=
  (t.positions .before).filter fun path => decide (IsShown b room t path)

/-- The last of the shown positions that are this one or lie below it. -/
def lastBelow (b : Brackets) (room : Int) (t : Tree String) (path : List Nat) :
    Option (List Nat) :=
  ((shown b room t).filter fun q => decide (path <+: q)).getLast?

/-- At `q` is a node that does not fit, and `path` is the last position that is shown of it. -/
def closes (b : Brackets) (room : Int) (t : Tree String) (path q : List Nat) : Bool :=
  breaksAt b room t q && decide (lastBelow b room t q = some path)

/-- The number of shown nodes that do not fit and whose last shown position is this one. -/
def closingsAt (b : Brackets) (room : Int) (t : Tree String) (path : List Nat) : Nat :=
  (shown b room t).countP (closes b room t path)

/-- What is written for a tree in front of those under it: the whole of a node that fits, or else
the opening bracket and the label, or a word. -/
def opened (b : Brackets) (room : Int) : Tree String → List Char
  | leaf word => word.toList
  | node label children =>
      if fits b room (node label children) then (flat b.enclosure (node label children)).toList
      else b.opening :: label.toList

/-- What is written for the tree at a position. -/
def partAt (b : Brackets) (room : Int) (t : Tree String) (path : List Nat) : List Char :=
  (t.get? path).elim [] (opened b (room - 2 * path.length))

/-- The line of a position. -/
def lineAt (b : Brackets) (indent room : Int) (t : Tree String) (path : List Nat) : List Char :=
  (if path = [] then [] else (spaces (indent + 2 * path.length)).toList) ++ partAt b room t path ++
    List.replicate (closingsAt b room t path) b.closing

end Lines

section Below

/-- The way to a child takes two characters of the room. -/
theorem room_cons (room : Int) (j : Nat) (path : List Nat) :
    room - 2 * ((j :: path).length : Int) = room - 2 - 2 * (path.length : Int) := by
  rw [List.length_cons]
  omega

/-- What fits at a position below a child fits there below the node. -/
theorem fitsAt_cons (hu : children[j]? = some u) :
    fitsAt b room (node label children) (j :: path) = fitsAt b (room - 2) u path := by
  rw [fitsAt, fitsAt, get?_node_cons, hu, Option.bind_some, room_cons]

/-- A node below a child does not fit if it does not in this child, with less room. -/
theorem breaksAt_cons (hu : children[j]? = some u) :
    breaksAt b room (node label children) (j :: path) = breaksAt b (room - 2) u path := by
  rw [breaksAt, breaksAt, get?_node_cons, hu, Option.bind_some, room_cons]

/-- The root fits if the tree does. -/
theorem fitsAt_nil : fitsAt b room t [] = fits b room t := by
  simp [fitsAt, get?]

/-- The root is shown, since nothing is above it. -/
theorem isShown_nil : IsShown b room t [] := fun n hn => absurd hn (Nat.not_lt_zero n)

/-- A position below a child is shown if the node is broken and it is shown below the child. -/
theorem isShown_cons (hu : children[j]? = some u) :
    IsShown b room (node label children) (j :: path) ↔
      fits b room (node label children) = false ∧ IsShown b (room - 2) u path := by
  rw [IsShown, List.length_cons, Nat.forall_lt_succ_left', List.take_zero, fitsAt_nil, IsShown]
  simp only [List.take_succ_cons, fitsAt_cons hu]

/-- The positions that are shown are those where something stands and nothing above fits. -/
theorem mem_shown_iff : path ∈ shown b room t ↔ (t.get? path).isSome ∧ IsShown b room t path := by
  rw [shown, List.mem_filter, mem_positions_iff (.inl rfl), decide_eq_true_iff]

/-- No position is shown twice. -/
theorem nodup_shown (b : Brackets) (room : Int) (t : Tree String) : (shown b room t).Nodup :=
  (nodup_positions t).filter _

/-- Of a leaf, its own position is shown. -/
theorem shown_leaf (word : String) : shown b room (leaf word) = [[]] := rfl

/-- The root is shown first, and then those of the positions below it that are shown. -/
theorem shown_node (label : String) (children : List (Tree String)) :
    shown b room (node label children) = [] :: (positionsAll .before 0 children).filter
      fun path => decide (IsShown b room (node label children) path) := by
  simp [shown, positions, isShown_nil]

/-- Below a node that fits nothing is shown. -/
theorem shown_of_fits (h : fits b room (node label children) = true) :
    shown b room (node label children) = [[]] := by
  have hbelow : (positionsAll .before 0 children).filter
      (fun path => decide (IsShown b room (node label children) path)) = [] := by
    rw [List.filter_eq_nil_iff]
    intro path hpath hshown
    obtain ⟨j, u, path, hu, -, rfl⟩ := mem_positionsAll_iff.mp hpath
    rw [Nat.zero_add, decide_eq_true_iff, isShown_cons hu, h] at hshown
    cases hshown.1
  rw [shown_node, hbelow]

/-- Below a node that is broken, the positions below one of the children stand together, and the
others begin with another place. -/
theorem exists_shown_eq (h : fits b room (node label children) = false)
    (hu : children[j]? = some u) :
    ∃ front back, shown b room (node label children) =
        [] :: (front ++ (shown b (room - 2) u).map (j :: ·) ++ back) ∧
      ∀ q ∈ front ++ back, ∃ i path, q = i :: path ∧ i ≠ j := by
  obtain ⟨front, back, hsplit, hother⟩ := exists_positionsAll_eq (i := 0) .before hu
  rw [Nat.zero_add] at hsplit hother
  let keep : List Nat → Bool := fun path => decide (IsShown b room (node label children) path)
  have hchild : ((u.positions .before).map (j :: ·)).filter keep =
      (shown b (room - 2) u).map (j :: ·) := by
    rw [List.filter_map, shown]
    refine congrArg _ (List.filter_congr fun path _ => decide_eq_decide.mpr ?_)
    exact (isShown_cons hu).trans (and_iff_right h)
  refine ⟨front.filter keep, back.filter keep, ?_, fun q hq => ?_⟩
  · rw [shown_node, hsplit, List.filter_append, List.filter_append, hchild]
  · have hmem : q ∈ front ++ back := by
      rw [← List.filter_append] at hq
      exact List.mem_of_mem_filter hq
    have hbelow : q ∈ positionsAll .before 0 children := by
      rw [hsplit]
      simp only [List.mem_append] at hmem ⊢
      tauto
    obtain ⟨i, -, path, -, -, rfl⟩ := mem_positionsAll_iff.mp hbelow
    refine ⟨0 + i, path, rfl, fun heq => ?_⟩
    exact hother _ hmem [] (by simp [heq])

/-- A node is closed at its own position or at one below. -/
theorem prefix_of_closes (h : closes b room t path q = true) : q <+: path := by
  obtain ⟨-, hlast⟩ := Bool.and_eq_true_iff.mp h
  have hmem := List.mem_of_getLast? (of_decide_eq_true hlast)
  exact of_decide_eq_true (List.mem_filter.mp hmem).2

/-- The last position that is shown of the root is the last of all. -/
theorem lastBelow_nil : lastBelow b room t [] = (shown b room t).getLast? := by
  simp [lastBelow]

/-- The last position below one that is below a child is found below the child. -/
theorem lastBelow_cons (h : fits b room (node label children) = false)
    (hu : children[j]? = some u) : lastBelow b room (node label children) (j :: q) =
      (lastBelow b (room - 2) u q).map (j :: ·) := by
  obtain ⟨front, back, hsplit, hother⟩ := exists_shown_eq h hu
  have hnone : ∀ ps ⊆ front ++ back, ps.filter (fun p => decide (j :: q <+: p)) = [] := by
    intro ps hps
    rw [List.filter_eq_nil_iff]
    intro p hp hbegins
    obtain ⟨i, path, rfl, hne⟩ := hother p (hps hp)
    exact hne (List.cons_prefix_cons.mp (of_decide_eq_true hbegins)).1.symm
  have hchild : ((shown b (room - 2) u).map (j :: ·)).filter (fun p => decide (j :: q <+: p)) =
      ((shown b (room - 2) u).filter fun p => decide (q <+: p)).map (j :: ·) := by
    rw [List.filter_map]
    refine congrArg _ (List.filter_congr fun path _ => decide_eq_decide.mpr ?_)
    exact (List.cons_prefix_cons (a := j)).trans (and_iff_right rfl)
  rw [lastBelow, hsplit, List.filter_cons_of_neg (by simp), List.filter_append, List.filter_append,
    hnone front (List.subset_append_left _ _), hnone back (List.subset_append_right _ _), hchild,
    List.nil_append, List.append_nil, List.getLast?_map, lastBelow]

/-- What is closed below a child is closed in this child, with less room. -/
theorem closes_cons (h : fits b room (node label children) = false) (hu : children[j]? = some u) :
    closes b room (node label children) (j :: path) (j :: q) =
      closes b (room - 2) u path q := by
  rw [closes, closes, breaksAt_cons hu, lastBelow_cons h hu]
  simp

/-- The number of nodes below the root whose last shown position is this one. -/
def closingsBelow (b : Brackets) (room : Int) (children : List (Tree String)) : List Nat → Nat
  | [] => 0
  | j :: path => (children[j]?).elim 0 fun u => closingsAt b room u path

/-- Beside the nodes below it, a broken node is closed at the last position of all. -/
theorem closingsAt_node (h : fits b room (node label children) = false)
    (hpath : path ∈ shown b room (node label children)) :
    closingsAt b room (node label children) path =
      closingsBelow b (room - 2) children path +
        if (shown b room (node label children)).getLast? = some path then 1 else 0 := by
  have hroot : closes b room (node label children) path [] =
      decide ((shown b room (node label children)).getLast? = some path) := by
    rw [closes, lastBelow_nil]
    simp [breaksAt, get?, isNode, h]
  have hfirst : ∀ rest, shown b room (node label children) = [] :: rest →
      closingsAt b room (node label children) path =
        rest.countP (closes b room (node label children) path) +
          if (shown b room (node label children)).getLast? = some path then 1 else 0 := by
    intro rest hrest
    rw [closingsAt, hrest, List.countP_cons, ← hrest, hroot]
    simp only [decide_eq_true_eq]
  cases path with
  | nil =>
    rw [hfirst _ (shown_node label children), closingsBelow]
    refine congrArg (· + _) (List.countP_eq_zero.mpr fun q hq hcloses => ?_)
    obtain ⟨j, u, q, -, -, rfl⟩ := mem_positionsAll_iff.mp (List.mem_of_mem_filter hq)
    simpa using prefix_of_closes hcloses
  | cons j path =>
    obtain ⟨u, hu⟩ : ∃ u, children[j]? = some u := by
      have hsome := (mem_shown_iff.mp hpath).1
      rw [get?_node_cons] at hsome
      exact Option.isSome_iff_exists.mp (Option.isSome_of_isSome_bind hsome)
    -- Only the root and what is in the same child as the position can be closed there.
    obtain ⟨front, back, hsplit, hother⟩ := exists_shown_eq h hu
    have hnone : ∀ ps ⊆ front ++ back,
        ps.countP (closes b room (node label children) (j :: path)) = 0 := by
      intro ps hps
      rw [List.countP_eq_zero]
      intro q hq hcloses
      obtain ⟨i, q, rfl, hne⟩ := hother q (hps hq)
      exact hne (List.cons_prefix_cons.mp (prefix_of_closes hcloses)).1
    have hchild : (shown b (room - 2) u).countP
        (closes b room (node label children) (j :: path) ∘ (j :: ·)) =
        closingsAt b (room - 2) u path :=
      List.countP_congr fun q _ => by rw [Function.comp_apply, closes_cons h hu]
    rw [hfirst _ hsplit, List.countP_append, List.countP_append, List.countP_map,
      hnone front (List.subset_append_left _ _), hnone back (List.subset_append_right _ _), hchild,
      closingsBelow, hu, Option.elim_some, Nat.zero_add, Nat.add_zero]

end Below

section Joining

/-- One more character behind the last piece stands behind the join. -/
theorem join_closing {ps : List (List Nat)} (sep : List Char) (f : List Nat → List Char)
    (n : List Nat → Nat) (c : Char) (hnodup : ps.Nodup) (hne : ps ≠ []) :
    join sep (ps.map fun p =>
        f p ++ List.replicate (n p + if ps.getLast? = some p then 1 else 0) c) =
      join sep (ps.map fun p => f p ++ List.replicate (n p) c) ++ [c] := by
  obtain ⟨front, last, rfl⟩ : ∃ front last, ps = front ++ [last] :=
    ⟨ps.dropLast, ps.getLast hne, (List.dropLast_concat_getLast hne).symm⟩
  have hlast : last ∉ front := by
    intro hmem
    exact (List.nodup_append.mp hnodup).2.2 last hmem last List.mem_cons_self rfl
  have hfront : (front.map fun p => f p ++ List.replicate
        (n p + if (front ++ [last]).getLast? = some p then 1 else 0) c) =
      front.map fun p => f p ++ List.replicate (n p) c := by
    refine List.map_congr_left fun p hp => ?_
    have hother : last ≠ p := fun heq => hlast (heq ▸ hp)
    simp [hother]
  rw [List.map_append, List.map_append, hfront, List.map_singleton, List.map_singleton, join_concat,
    join_concat, List.getLast?_concat, if_pos rfl, List.replicate_succ']
  simp only [List.append_assoc]

/-- The positions below the children of a node, one child after the other. -/
theorem map_filter_positionsAll {α : Type} {keep : List Nat → Bool} {f : List Nat → α}
    {g : Tree String → List Nat → α}
    (hkeep : ∀ j u, ts[j]? = some u → ∀ p, keep ((i + j) :: p) = decide (IsShown b room u p))
    (hf : ∀ j u, ts[j]? = some u → ∀ p, f ((i + j) :: p) = g u p) :
    ((positionsAll .before i ts).filter keep).map f =
      ts.flatMap fun u => (shown b room u).map (g u) := by
  induction ts generalizing i with
  | nil => rfl
  | cons t ts ih =>
    have hfirst : (((t.positions .before).map (i :: ·)).filter keep).map f =
        (shown b room t).map (g t) := by
      rw [List.filter_map, List.map_map, shown]
      have hsame : (keep ∘ (i :: ·)) = fun p => decide (IsShown b room t p) :=
        funext fun p => hkeep 0 t rfl p
      rw [hsame]
      exact List.map_congr_left fun p _ => hf 0 t rfl p
    have hrest := ih (i := i + 1)
      (fun j u hu p => by rw [Nat.add_assoc, Nat.add_comm 1 j]; exact hkeep (j + 1) u hu p)
      (fun j u hu p => by rw [Nat.add_assoc, Nat.add_comm 1 j]; exact hf (j + 1) u hu p)
    rw [positionsAll, List.filter_append, List.map_append, hfirst, hrest, List.flatMap_cons]

/-- The line of a position up to the closing brackets, indented at the root as well. -/
def frontAt (b : Brackets) (indent room : Int) (t : Tree String) (path : List Nat) : List Char :=
  (spaces (indent + 2 * path.length)).toList ++ partAt b room t path

/-- The line of a position, indented at the root as well. -/
def lineWith (b : Brackets) (indent room : Int) (t : Tree String) (path : List Nat) : List Char :=
  frontAt b indent room t path ++ List.replicate (closingsAt b room t path) b.closing

/-- Below a child, a line is that of the child, with a larger indent and less room. -/
theorem frontAt_cons (hu : children[j]? = some u) :
    frontAt b indent room (node label children) (j :: path) =
      frontAt b (indent + 2) (room - 2) u path := by
  have hdepth : indent + 2 * ((j :: path).length : Int) = indent + 2 + 2 * (path.length : Int) := by
    rw [List.length_cons]
    omega
  rw [frontAt, frontAt, partAt, partAt, get?_node_cons, hu, Option.bind_some, hdepth, room_cons]

/-- The root is among the positions that are shown. -/
theorem nil_mem_shown : [] ∈ shown b room t := by
  simp [mem_shown_iff, get?, isShown_nil]

/-- Some position is shown. -/
theorem shown_ne_nil (b : Brackets) (room : Int) (t : Tree String) : shown b room t ≠ [] :=
  List.ne_nil_of_mem nil_mem_shown

/-- A tree that is not broken is on a single line. -/
theorem map_lineWith_root (hshown : shown b room t = [[]])
    (hbreaks : breaksAt b room t [] = false) :
    (shown b room t).map (lineWith b indent room t) =
      [(spaces indent).toList ++ opened b room t] := by
  have hnone : closingsAt b room t [] = 0 := by
    rw [closingsAt, hshown, List.countP_cons_of_neg (by simp [closes, hbreaks]), List.countP_nil]
  simp [hshown, lineWith, frontAt, partAt, hnone, get?]

/-- Up to the brackets that the root puts there, the lines of a broken node are the first one and
those of its children, two characters deeper. -/
theorem map_lineWith_node (h : fits b room (node label children) = false) :
    ((shown b room (node label children)).map fun path =>
        frontAt b indent room (node label children) path ++
          List.replicate (closingsBelow b (room - 2) children path) b.closing) =
      ((spaces indent).toList ++ b.opening :: label.toList) :: children.flatMap fun u =>
        (shown b (room - 2) u).map (lineWith b (indent + 2) (room - 2) u) := by
  have hkeep : ∀ j u, children[j]? = some u → ∀ path,
      decide (IsShown b room (node label children) ((0 + j) :: path)) =
        decide (IsShown b (room - 2) u path) := by
    intro j u hu path
    rw [Nat.zero_add, decide_eq_decide, isShown_cons hu, and_iff_right h]
  have hbelow : ∀ j u, children[j]? = some u → ∀ path,
      frontAt b indent room (node label children) ((0 + j) :: path) ++
          List.replicate (closingsBelow b (room - 2) children ((0 + j) :: path)) b.closing =
        lineWith b (indent + 2) (room - 2) u path := by
    intro j u hu path
    rw [Nat.zero_add, frontAt_cons hu, closingsBelow, hu, Option.elim_some, lineWith]
  have hfirst : frontAt b indent room (node label children) [] ++
      List.replicate (closingsBelow b (room - 2) children []) b.closing =
        (spaces indent).toList ++ b.opening :: label.toList := by
    simp [frontAt, partAt, get?, opened, h, closingsBelow]
  rw [shown_node, List.map_cons, map_filter_positionsAll hkeep hbelow, hfirst]

/-- The lines of a broken node have one more closing bracket behind the last. -/
theorem join_lineWith_node (h : fits b room (node label children) = false) :
    join ['\n'] ((shown b room (node label children)).map
        (lineWith b indent room (node label children))) =
      ((spaces indent).toList ++ b.opening :: label.toList) ++
        (children.flatMap fun u => '\n' :: join ['\n']
          ((shown b (room - 2) u).map (lineWith b (indent + 2) (room - 2) u))) ++ [b.closing] := by
  have hlines : (shown b room (node label children)).map
      (lineWith b indent room (node label children)) =
      (shown b room (node label children)).map fun path =>
        frontAt b indent room (node label children) path ++
          List.replicate (closingsBelow b (room - 2) children path +
            if (shown b room (node label children)).getLast? = some path then 1 else 0)
            b.closing := by
    refine List.map_congr_left fun path hpath => ?_
    rw [lineWith, closingsAt_node h hpath]
  have hgroup : ∀ u : Tree String,
      (shown b (room - 2) u).map (lineWith b (indent + 2) (room - 2) u) ≠ [] := by
    intro u
    rw [ne_eq, List.map_eq_nil_iff]
    exact shown_ne_nil b _ u
  have hgroups := join_append_flatMap ['\n']
    (List.cons_ne_nil ((spaces indent).toList ++ b.opening :: label.toList) []) hgroup children
  rw [List.singleton_append] at hgroups
  -- The root is closed at the last of all positions, whichever child that is below.
  rw [hlines, join_closing _ _ _ _ (nodup_shown b room _) (shown_ne_nil b room _),
    map_lineWith_node h, hgroups, join]
  rfl

mutual

/-- A tree is written as the lines of its positions. -/
theorem join_lineWith (b : Brackets) (margin indent : Int) (t : Tree String) :
    join ['\n'] ((shown b (margin - indent) t).map (lineWith b indent (margin - indent) t)) =
      (spaces indent).toList ++ (pretty b.enclosure margin indent t).toList := by
  match t with
  | .leaf word =>
    rw [map_lineWith_root rfl (by simp [breaksAt, get?, isNode]), join, opened, pretty]
  | .node label children =>
    rw [toList_pretty_node]
    by_cases h : fits b (margin - indent) (node label children) = true
    · have hbreaks : breaksAt b (margin - indent) (node label children) [] = false := by
        simp [breaksAt, get?, h]
      have hlength : (flat b.enclosure (node label children)).length + indent < margin := by
        rw [fits, decide_eq_true_iff] at h
        omega
      rw [map_lineWith_root (shown_of_fits h) hbreaks, join, opened, if_pos h, if_pos hlength]
    · have hlength : ¬(flat b.enclosure (node label children)).length + indent < margin := by
        rw [fits, decide_eq_true_iff] at h
        omega
      have hroom : margin - indent - 2 = margin - (indent + 2) := by omega
      rw [join_lineWith_node (Bool.eq_false_iff.mpr h), hroom,
        join_lineWithAll b margin (indent + 2) children, if_neg hlength]
      simp [Brackets.enclosure]

/-- The lines of several trees, each with a line feed in front, are those in which they are
written. -/
theorem join_lineWithAll (b : Brackets) (margin indent : Int) (ts : List (Tree String)) :
    (ts.flatMap fun u => '\n' :: join ['\n']
        ((shown b (margin - indent) u).map (lineWith b indent (margin - indent) u))) =
      (prettyAll b.enclosure margin indent ts).toList := by
  match ts with
  | [] => rw [prettyAll]; rfl
  | t :: ts =>
    rw [List.flatMap_cons, join_lineWith b margin indent t, join_lineWithAll b margin indent ts]
    simp [prettyAll]

end

/-- The root is shown first and not again. -/
theorem exists_shown_eq_cons (b : Brackets) (room : Int) (t : Tree String) :
    ∃ rest, shown b room t = [] :: rest ∧ [] ∉ rest := by
  obtain ⟨rest, hrest⟩ : ∃ rest, shown b room t = [] :: rest := by
    cases t with
    | leaf word => exact ⟨[], shown_leaf word⟩
    | node label children => exact ⟨_, shown_node label children⟩
  have hnodup := nodup_shown b room t
  rw [hrest, List.nodup_cons] at hnodup
  exact ⟨rest, hrest, hnodup.1⟩

/-- In front of the first line there are no spaces. -/
theorem join_lineAt (b : Brackets) (margin indent : Int) (t : Tree String) :
    join ['\n'] ((shown b (margin - indent) t).map (lineAt b indent (margin - indent) t)) =
      (pretty b.enclosure margin indent t).toList := by
  obtain ⟨rest, hshown, hnil⟩ := exists_shown_eq_cons b (margin - indent) t
  have hlines := join_lineWith b margin indent t
  have hrest : rest.map (lineWith b indent (margin - indent) t) =
      rest.map (lineAt b indent (margin - indent) t) := by
    refine List.map_congr_left fun path hpath => ?_
    have hne : path ≠ [] := fun heq => hnil (heq ▸ hpath)
    rw [lineWith, frontAt, lineAt, if_neg hne]
  have hfirst : lineWith b indent (margin - indent) t [] =
      (spaces indent).toList ++ lineAt b indent (margin - indent) t [] := by
    simp [lineWith, frontAt, lineAt]
  have hjoin : ∀ xs ys (zs : List (List Char)),
      join ['\n'] ((xs ++ ys) :: zs) = xs ++ join ['\n'] (ys :: zs) := by
    intro xs ys zs
    cases zs <;> simp [join]
  rw [hshown, List.map_cons, hrest, hfirst, hjoin] at hlines
  rw [hshown, List.map_cons]
  exact List.append_cancel_left hlines

end Joining

section Splitting

/-- No label and no word of the tree holds a line feed. -/
def HasNoFeed (t : Tree String) : Prop := ∀ u ∈ t.preorder, '\n' ∉ u.caption.toList

/-- A bracket is no line feed. -/
theorem ne_feed (b : Brackets) : b.opening ≠ '\n' ∧ b.closing ≠ '\n' := by
  constructor
  · intro h
    have hvisible := b.opening_visible
    rw [h] at hvisible
    cases hvisible
  · intro h
    have hvisible := b.closing_visible
    rw [h] at hvisible
    cases hvisible

mutual

/-- A tree without line feeds in labels and words is written on a single line. -/
theorem feed_not_mem_flat : (t : Tree String) → (∀ u ∈ t.visits .before, '\n' ∉ u.caption.toList) →
    '\n' ∉ (flat b.enclosure t).toList
  | leaf word, h => by
    rw [toList_flat_leaf]
    exact h _ List.mem_cons_self
  | node label children, h => by
    have hlabel : '\n' ∉ label.toList := h (node label children) (by simp [visits])
    have hbelow := feed_not_mem_flatAll children fun u hu => h u (by simp [visits, hu])
    obtain ⟨hopening, hclosing⟩ := ne_feed b
    simp [hlabel, hbelow, hopening.symm, hclosing.symm]

/-- Trees without line feeds in labels and words are written on a single line. -/
theorem feed_not_mem_flatAll : (ts : List (Tree String)) →
    (∀ u ∈ visitsAll .before ts, '\n' ∉ u.caption.toList) →
    '\n' ∉ (flatAll b.enclosure ts).toList
  | [], _ => by simp
  | t :: ts, h => by
    have hfirst := feed_not_mem_flat t fun u hu => h u (by simp [visitsAll, hu])
    have hrest := feed_not_mem_flatAll ts fun u hu => h u (by simp [visitsAll, hu])
    simp [hfirst, hrest]

end

/-- No line holds a line feed. -/
theorem feed_not_mem_lineAt (ht : t.HasNoFeed) (hpath : path ∈ shown b room t) :
    '\n' ∉ lineAt b indent room t path := by
  obtain ⟨u, hu⟩ := Option.isSome_iff_exists.mp (mem_shown_iff.mp hpath).1
  rw [HasNoFeed, preorder_eq_visits] at ht
  have hcaptions : ∀ v ∈ u.visits .before, '\n' ∉ v.caption.toList :=
    fun v hv => ht v (visits_subset_of_get? hu hv)
  have hopened : '\n' ∉ opened b (room - 2 * path.length) u := by
    cases u with
    | leaf word => exact hcaptions _ List.mem_cons_self
    | node label children =>
      rw [opened]
      split
      · exact feed_not_mem_flat _ hcaptions
      · have hlabel : '\n' ∉ label.toList := hcaptions (node label children) (by simp [visits])
        simp [hlabel, (ne_feed b).1.symm]
  have hspaces : '\n' ∉ (spaces (indent + 2 * path.length)).toList := by
    simp [spaces, List.mem_replicate]
  have hclosings : '\n' ∉ List.replicate (closingsAt b room t path) b.closing := by
    simp [List.mem_replicate, (ne_feed b).2.symm]
  rw [lineAt, partAt, hu, Option.elim_some, List.mem_append, List.mem_append]
  rintro ((hmem | hmem) | hmem)
  · split at hmem
    · cases hmem
    · exact hspaces hmem
  · exact hopened hmem
  · exact hclosings hmem

/-- Between the line feeds in a tree that is broken over lines stand the lines of its positions. -/
theorem splitAtFeeds_pretty (ht : t.HasNoFeed) (b : Brackets) (margin indent : Int) :
    splitAtFeeds (pretty b.enclosure margin indent t).toList =
      (shown b (margin - indent) t).map (lineAt b indent (margin - indent) t) := by
  rw [← join_lineAt, splitAtFeeds_join]
  · rw [ne_eq, List.map_eq_nil_iff]
    exact shown_ne_nil b _ t
  · rw [List.forall_mem_map]
    exact fun path hpath => feed_not_mem_lineAt ht hpath

/-- Without room nothing fits, and everything is shown. -/
theorem shown_of_no_room (hroom : room ≤ 0) : shown b room t = t.positions .before := by
  have hfits : ∀ (n : Nat) (u : Tree String), fits b (room - 2 * n) u = false := by
    intro n u
    cases u with
    | leaf word => rfl
    | node label children =>
      rw [fits, decide_eq_false_iff_not]
      omega
  rw [shown, List.filter_eq_self]
  intro path _
  rw [decide_eq_true_iff]
  intro n _
  rw [fitsAt]
  cases t.get? (path.take n) with
  | none => rfl
  | some u => exact hfits _ u

end Splitting

/-- A tree without line feeds in its labels and words is written, at any margin and with any indent,
with one line for each of the positions that are shown, unless the spaces in front of a line are too
many. Its drawing has one line for each of the items that are listed in pre-order. -/
theorem printed_lines (ht : t.HasNoFeed) (b : Brackets) (margin indent : Int) :
    ((Style.broken margin indent).Fits →
      (Style.broken margin indent).render b t = .ok (pretty b.enclosure margin indent t)) ∧
    (∀ s, (Style.broken margin indent).render b t = .ok s → splitAtFeeds s.toList =
      (shown b (margin - indent) t).map (lineAt b indent (margin - indent) t)) ∧
    (Style.broken 0 0).render .round t = .ok t.drawing ∧
    splitAtFeeds t.drawing.toList = (t.positions .before).map (lineAt .round 0 0 t) ∧
    (t.positions .before).map t.get? = t.preorder.map some := by
  have hfits : (Style.broken 0 0).Fits := ⟨by decide, by decide⟩
  have hround : Brackets.round.enclosure = Enclosure.round := rfl
  have hdrawing : t.drawing = pretty Brackets.round.enclosure 0 0 t := by rw [drawing, hround]
  refine ⟨render_of_fits b t, fun s hs => ?_, ?_, ?_, ?_⟩
  · rw [eq_write_of_render hs, Style.write, splitAtFeeds_pretty ht b margin indent]
  · rw [render_of_fits .round t hfits, Style.write, hdrawing]
  · rw [hdrawing, splitAtFeeds_pretty ht .round 0 0, shown_of_no_room (by decide)]
    rfl
  · rw [map_get?_positions, preorder_eq_visits]

/-- A node that fits beside broken ones, the innermost of which has nothing under it: its only line
closes three nodes. -/
theorem printed_lines_nested :
    ∃ t s, HasNoFeed t ∧ (Style.broken 10 1).render .square t = .ok s ∧
      flat Brackets.square.enclosure t = "[S [NP a] [VP b [XYZW]]]" ∧
      splitAtFeeds s.toList = ["[S", "   [NP a]", "   [VP", "     b", "     [XYZW]]]"].map
        String.toList := by
  let t := node "S" [node "NP" [leaf "a"], node "VP" [leaf "b", node "XYZW" []]]
  have ht : t.HasNoFeed := by
    rw [HasNoFeed, preorder_eq_visits]
    decide +kernel
  obtain ⟨hrender, hlines, -⟩ := printed_lines ht .square 10 1
  have hs := hrender ⟨by decide, by decide⟩
  refine ⟨t, _, ht, hs, by decide +kernel, ?_⟩
  rw [hlines _ hs]
  decide +kernel

end PhraseStructure.Tree
