/-!
# Lines of text

Three ways in which text is divided into lines: at every line break there is (`lines`), at the line
feed only, keeping it (`linesWithFeed`), and the step before it, in which a carriage return, alone
or before a line feed, is read as a line feed (`normalizeNewlines`).
-/

namespace PhraseStructure.Text

/-- The characters that end a line on their own. A carriage return directly before a line feed
makes one line break with it. -/
def isLineBreak (c : Char) : Bool :=
  let n := c.toNat
  (0x0A ≤ n && n ≤ 0x0D) || (0x1C ≤ n && n ≤ 0x1E) || n == 0x85 || n == 0x2028 || n == 0x2029

/-- The lines of the text without their breaks. The second argument is the line that is being
read, in reverse; a last line that is empty is no line. -/
def linesFrom : List Char → List Char → List (List Char)
  | [], [] => []
  | [], line => [line.reverse]
  | '\r' :: '\n' :: cs, line => line.reverse :: linesFrom cs []
  | c :: cs, line =>
      if isLineBreak c then line.reverse :: linesFrom cs [] else linesFrom cs (c :: line)

/-- The lines of the text without their breaks. -/
def lines (cs : List Char) : List (List Char) := linesFrom cs []

/-- Reads every carriage return, and every carriage return with its line feed, as a line feed. -/
def normalizeNewlines : List Char → List Char
  | [] => []
  | '\r' :: '\n' :: cs => '\n' :: normalizeNewlines cs
  | c :: cs => (if c = '\r' then '\n' else c) :: normalizeNewlines cs

/-- The lines of the text, each with the line feed that ends it; the last line may lack one. -/
def linesWithFeedFrom : List Char → List Char → List (List Char)
  | [], [] => []
  | [], line => [line.reverse]
  | c :: cs, line =>
      if c = '\n' then (c :: line).reverse :: linesWithFeedFrom cs []
      else linesWithFeedFrom cs (c :: line)

/-- The lines of the text, each with the line feed that ends it; the last line may lack one. -/
def linesWithFeed (cs : List Char) : List (List Char) := linesWithFeedFrom cs []

end PhraseStructure.Text
