import PhraseStructure.Grammar.Basic
import PhraseStructure.Production.Shape

/-!
# Classes of grammars

A grammar belongs to a class by the shapes of its productions. The productions are looked at one by
one, only as far as needed to decide, and one that cannot be read ends the search.
-/

namespace PhraseStructure

/-- Whether all readings satisfy a condition. -/
def allReadings (holds : Production → Bool) : List (Except Fault Production) → Except Fault Bool
  | [] => .ok true
  | .error fault :: _ => .error fault
  | .ok p :: rest => if holds p then allReadings holds rest else .ok false

/-- Whether some reading satisfies a condition. -/
def anyReading (holds : Production → Bool) : List (Except Fault Production) → Except Fault Bool
  | [] => .ok false
  | .error fault :: _ => .error fault
  | .ok p :: rest => if holds p then .ok true else anyReading holds rest

namespace Grammar

variable (g : Grammar)

/-- Every production has a single non-terminal head. -/
def isContextFree : Except Fault Bool := allReadings Production.isContextFree g.readings

def isLeftRegular : Except Fault Bool := allReadings Production.isLeftRegular g.readings

def isRightRegular : Except Fault Bool := allReadings Production.isRightRegular g.readings

/-- Left-regular, right-regular, or both. -/
def isRegular : Except Fault Bool := do
  if ← g.isLeftRegular then return true else g.isRightRegular

/-- Left-regular or right-regular, but not both. -/
def isStrictlyRegular : Except Fault Bool := do
  let left ← g.isLeftRegular
  let right ← g.isRightRegular
  return left != right

/-- Each production is left-regular or right-regular; both kinds may be mixed. -/
def isLinear : Except Fault Bool :=
  allReadings (fun p => p.isLeftRegular || p.isRightRegular) g.readings

def isChomskyNormal : Except Fault Bool := allReadings Production.isChomskyNormal g.readings

def isGreibachNormal : Except Fault Bool := allReadings Production.isGreibachNormal g.readings

/-- Some production is left-recursive. -/
def isLeftRecursive : Except Fault Bool := anyReading Production.isLeftRecursive g.readings

/-- Some production replaces its head by itself. -/
def isCyclic : Except Fault Bool := anyReading Production.isCyclic g.readings

/-- The classes that a grammar is sorted into. -/
inductive Class
  | contextFree
  | leftRegular
  | rightRegular
  | regular
  | strictlyRegular
  | linear
  | chomskyNormal
  | greibachNormal
  | leftRecursive
  | cyclic
  deriving DecidableEq, Repr

namespace Class

/-- The classes in the order in which they are reported. -/
def all : List Class :=
  [contextFree, leftRegular, rightRegular, regular, strictlyRegular, linear, chomskyNormal,
    greibachNormal, leftRecursive, cyclic]

/-- The description of a class. -/
def description : Class → String
  | contextFree => "context-free"
  | leftRegular => "left-regular"
  | rightRegular => "right-regular"
  | regular => "regular"
  | strictlyRegular => "strictly regular"
  | linear => "linear"
  | chomskyNormal => "Chomsky normal form"
  | greibachNormal => "Greibach normal form"
  | leftRecursive => "left-recursive"
  | cyclic => "cyclic"

end Class

/-- Whether the grammar belongs to a class. -/
def belongs : Class → Except Fault Bool
  | .contextFree => g.isContextFree
  | .leftRegular => g.isLeftRegular
  | .rightRegular => g.isRightRegular
  | .regular => g.isRegular
  | .strictlyRegular => g.isStrictlyRegular
  | .linear => g.isLinear
  | .chomskyNormal => g.isChomskyNormal
  | .greibachNormal => g.isGreibachNormal
  | .leftRecursive => g.isLeftRecursive
  | .cyclic => g.isCyclic

/-- All classes, each with whether the grammar belongs to it. -/
def classify : Except Fault (List (Class × Bool)) :=
  Class.all.mapM fun c => do return (c, ← g.belongs c)

end Grammar

end PhraseStructure
