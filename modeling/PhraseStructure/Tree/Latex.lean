import PhraseStructure.Tree.Printing

/-!
# Trees for typesetting

Code for drawing a tree: a node is a bracketing that starts with a point and its label. The code is
written on a single line, or broken over lines where a node has other nodes under it.
-/

namespace PhraseStructure.Tree

/-- The characters that have a meaning in the code and are written with a backslash in front. -/
def isReserved (c : Char) : Bool := ['#', '$', '%', '&', '~', '_', '\x7b', '\x7d'].contains c

/-- Characters with backslashes before the reserved ones. -/
def escapeReserved (cs : List Char) : List Char :=
  cs.flatMap fun c => if isReserved c then ['\\', c] else [c]

/-- A label or a word in the code. -/
def latexLabel (s : String) : String := String.ofList (escapeReserved s.toList)

mutual

/-- The bracketing of a tree on a single line. -/
def bracketing : Tree String → String
  | leaf word => latexLabel word
  | node label children => "[." ++ latexLabel label ++ " " ++ bracketingAll children ++ "]"

/-- Bracketings, each with a space behind it. -/
def bracketingAll : List (Tree String) → String
  | [] => ""
  | t :: ts => bracketing t ++ " " ++ bracketingAll ts

end

mutual

/-- The bracketing of a tree over several lines. A node without nodes under it stays on a line. -/
def layout (indent : Nat) : Tree String → String
  | leaf word => latexLabel word
  | node label children =>
      if children.any isNode then
        "[." ++ latexLabel label ++ layoutAll (indent + 2) children ++ "\n" ++ spaces indent ++ "]"
      else bracketing (node label children)

/-- Bracketings on lines of their own. -/
def layoutAll (indent : Nat) : List (Tree String) → String
  | [] => ""
  | t :: ts => "\n" ++ spaces indent ++ layout indent t ++ layoutAll indent ts

end

/-- The code that draws the tree, on a single line. -/
def qtree (t : Tree String) : String := "\\Tree " ++ bracketing t

/-- The code that draws the tree in colour, with the tree itself as a comment. -/
def tikzTree (nodeColor leafColor : String) (t : Tree String) : String :=
  Text.joinStrings "\n" [
    "% " ++ t.flat .round,
    "\\begin\x7btikzpicture\x7d",
    "  \\tikzset\x7bevery node/.style=\x7bcolor=" ++ nodeColor ++ "\x7d, font=\\sf\x7d",
    "  \\tikzset\x7bevery leaf node/.style=\x7bcolor=" ++ leafColor ++ "\x7d\x7d",
    "  \\Tree " ++ layout 8 t,
    "\\end\x7btikzpicture\x7d"]

end PhraseStructure.Tree
