import PhraseStructure.Brackets
import PhraseStructure.Fault
import PhraseStructure.Position
import PhraseStructure.Text.Cut
import PhraseStructure.Tree.Basic

/-!
# Trees in brackets

A node is written as its label and the trees under it between brackets: on a single line, with a
space between every two parts (`flat`), or broken over several lines where a line would reach a
margin (`pretty`).
-/

namespace PhraseStructure

/-- The texts written before and after the parts of a node. -/
structure Enclosure where
  before : String
  after : String

/-- The usual enclosure. -/
def Enclosure.round : Enclosure := ⟨"(", ")"⟩

/-- A pair of brackets as an enclosure. -/
def Brackets.enclosure (b : Brackets) : Enclosure :=
  ⟨String.singleton b.opening, String.singleton b.closing⟩

/-- The enclosure that a value stands for: its first two elements. -/
def Enclosure.read (given : Datum) : Except Fault Enclosure :=
  match given with
  | .table _ => .error .noSuchKey
  | _ =>
      match given.elements? with
      | some (before :: after :: _) => .ok ⟨before.plain, after.plain⟩
      | some _ => .error .outOfRange
      | none => .error .wrongKind

namespace Tree

mutual

/-- The tree on a single line. -/
def flat (e : Enclosure) : Tree String → String
  | leaf word => word
  | node label children => e.before ++ label ++ flatAll e children ++ e.after

/-- Trees on a single line, each behind a space. -/
def flatAll (e : Enclosure) : List (Tree String) → String
  | [] => ""
  | t :: ts => " " ++ flat e t ++ flatAll e ts

end

/-- The tree on a single line between brackets that are given. -/
def written (brackets : Datum) (t : Tree String) : Except Fault String := do
  return flat (← Enclosure.read brackets) t

/-- Spaces, none for a negative number. -/
def spaces (n : Int) : String := String.ofList (List.replicate n.toNat ' ')

mutual

/-- The tree on a single line if that leaves it before the margin, with `indent` characters in front
of it; otherwise broken over several lines, indented by two more than the root. -/
def pretty (e : Enclosure) (margin indent : Int) : Tree String → String
  | leaf word => word
  | node label children =>
      let line := flat e (node label children)
      if line.length + indent < margin then line
      else e.before ++ label ++ prettyAll e margin (indent + 2) children ++ e.after

/-- Trees on lines of their own. -/
def prettyAll (e : Enclosure) (margin indent : Int) : List (Tree String) → String
  | [] => ""
  | t :: ts => "\n" ++ spaces indent ++ pretty e margin indent t ++ prettyAll e margin indent ts

end

/-- The most spaces that can be kept in front of a line. -/
def mostSpaces : Int := Int.ofNat (Nat.pow 2 40)

/-- The whole number that is reached by the same whole numbers as a margin. No number reaches an
undefined margin, and none from `indent` on one before all numbers. -/
def wholeMargin (indent : Int) (margin : Number) : Int := (margin.ceiling?).getD indent

/-- The tree as `pretty` writes it, for a margin, an indent and brackets that are given. Only where
the tree has to be broken over lines, the indent has to be a whole number and the second bracket a
text. -/
def prettyGiven (brackets margin indent : Datum) (t : Tree String) : Except Fault String := do
  let e ← Enclosure.read brackets
  let some marginNumber := margin.number? | throw .wrongKind
  let some indentNumber := indent.number? | throw .wrongKind
  let line := flat e t
  if (indentNumber.addWhole line.length).less marginNumber then return line
  if !t.children.isEmpty then
    let some start := indent.int? | throw .wrongKind
    if !fitsWord (start + 2) then throw .tooLarge
    if mostSpaces < start then throw .outOfMemory
  match (brackets.elements?.getD [])[1]? with
  | some (.text _) =>
      let start := (indent.int?).getD 0
      return pretty e (wholeMargin start marginNumber) start t
  | _ => throw .wrongKind

/-- The tree with every label and leaf on a line of its own. -/
def drawing (t : Tree String) : String := pretty .round 0 0 t

end Tree

end PhraseStructure
