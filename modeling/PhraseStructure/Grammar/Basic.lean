import PhraseStructure.Production.Rule
import PhraseStructure.Position

/-!
# Grammars

A grammar stores productions grouped by their head: one bucket for each head, in the order in which
the heads were first added, and in each bucket the daughters in the order of addition. Beside that
it remembers the head of every production in the order of addition, and the start symbol.

Stored symbols keep the brackets they were made with. Productions that are read from the grammar
carry the grammar's own brackets. The conventions of a grammar are kept as they were given and
are checked where they are used.
-/

namespace PhraseStructure

/-- How the rules of a grammar are written. -/
structure Conventions where
  /-- The text between head and daughters. -/
  delimiter : Datum := .text Production.arrow
  /-- The brackets around terminals. -/
  brackets : Datum := .text "[]"
  /-- The text between two rules. -/
  lineSeparator : Datum := .text "\n"

/-- A head with the daughters of all its productions. -/
abbrev Bucket := List Symbol × List (List Symbol)

/-- A collection of productions. -/
structure Grammar where
  conventions : Conventions
  /-- The buckets, in order of first addition. -/
  buckets : List Bucket
  /-- The head of each production, in order of addition. -/
  additions : List (List Symbol)
  /-- The start symbol. -/
  start : Option Symbol

namespace Grammar

/-- The grammar without productions. -/
def empty (conventions : Conventions) : Grammar := ⟨conventions, [], [], none⟩

/-- The daughters under a head. -/
def lookup (head : List Symbol) : List Bucket → List (List Symbol)
  | [] => []
  | (h, ds) :: rest => if h == head then ds else lookup head rest

/-- The buckets with further daughters under a head; a new head comes last. -/
def addTo (head : List Symbol) (more : List (List Symbol)) : List Bucket → List Bucket
  | [] => [(head, more)]
  | (h, ds) :: rest =>
      if h == head then (h, ds ++ more) :: rest else (h, ds) :: addTo head more rest

/-- The head and the place in its bucket of the production with index `i`. -/
def locateIn : List Bucket → Nat → Option (List Symbol × Nat)
  | [], _ => none
  | (h, ds) :: rest, i => if i < ds.length then some (h, i) else locateIn rest (i - ds.length)

/-- The number of productions in some buckets. -/
def sizeIn : List Bucket → Nat
  | [] => 0
  | (_, ds) :: rest => ds.length + sizeIn rest

variable (g : Grammar)

/-- The daughters of the productions with a head. -/
def daughtersOf (head : List Symbol) : List (List Symbol) := lookup head g.buckets

/-- All productions as pairs of head and daughters, grouped by head. -/
def pairs : List (List Symbol × List Symbol) := g.buckets.flatMap fun (h, ds) => ds.map (h, ·)

/-- The heads, in order of first addition. -/
def heads : List (List Symbol) := g.buckets.map Prod.fst

/-- The number of productions. -/
def size : Nat := sizeIn g.buckets

/-- The productions one by one under the grammar's brackets. Each may turn out not to be readable:
the brackets may be no brackets, and an unchecked head may hold no symbol. -/
def readings : List (Except Fault Production) :=
  g.pairs.map fun (h, d) => Production.rewrap h d g.conventions.brackets

/-- All productions. -/
def productions : Except Fault (List Production) := g.readings.mapM id

/-- The head and the place in its bucket of a production; negative indices count from the end. -/
def locate (i : Int) : Option (List Symbol × Nat) :=
  let j := if i < 0 then i + g.size else i
  if j < 0 then none else locateIn g.buckets j.toNat

/-- The production at an index, if there is one. -/
def at? (i : Int) : Except Fault (Option Production) :=
  match g.locate i with
  | none => .ok none
  | some (head, n) =>
      match (g.daughtersOf head)[n]? with
      | none => .ok none
      | some daughters => do
          return some (← Production.rewrap head daughters g.conventions.brackets)

/-- The production at an index. -/
def get (i : Int) : Except Fault Production := do
  match ← g.at? i with
  | some p => return p
  | none => throw .productionRange

/-- The productions at the places of a slice. They are read before the slice is looked at. -/
def getSlice (r : SliceRequest) : Except Fault (List Production) := do
  let ps ← g.productions
  return (← r.read).take ps

/-- Whether a number, counted down by the sizes of buckets, comes below the size of one. -/
def reachesIn : List Bucket → Number → Bool
  | [], _ => false
  | (_, ds) :: rest, x => x.less (.whole ds.length) || reachesIn rest (x.addWhole (-ds.length))

/-- Whether a number lies where the productions are; a negative one counts from the end. -/
def reaches (x : Number) : Bool :=
  let y := if x.less (.whole 0) then x.addWhole g.size else x
  !y.less (.whole 0) && reachesIn g.buckets y

/-- The index that a value is. A number with a point is no index where the productions are, and any
index elsewhere, where nothing is found. -/
def readIndex (given : Datum) : Except Fault (Option Int) :=
  match given.number? with
  | some (.whole i) => .ok (some i)
  | some x => if g.reaches x then .error .wrongKind else .ok none
  | none => .error .wrongKind

/-- The production at an index that is given, if there is one. -/
def atGiven? (given : Datum) : Except Fault (Option Production) := do
  match ← g.readIndex given with
  | some i => g.at? i
  | none => return none

/-- The production at an index that is given. -/
def getGiven (given : Datum) : Except Fault Production := do
  match ← g.atGiven? given with
  | some p => return p
  | none => throw .productionRange

/-- The productions with a given head. -/
def productionsOf (head : Datum) : Except Fault (List Production) := do
  let head ← Production.readSide head g.conventions.brackets
  (g.daughtersOf head).mapM (Production.rewrap head · g.conventions.brackets)

/-- Whether a production occurs in the grammar. -/
def mem (p : Production) : Bool := (g.daughtersOf p.head).contains p.daughters

/-- The production that a rule is under the conventions of the grammar. -/
def readRule (rule : Datum) : Except Fault Production :=
  Production.ofRule rule g.conventions.delimiter g.conventions.brackets

/-- Whether a rule occurs in the grammar. -/
def contains (rule : Datum) : Except Fault Bool := do return g.mem (← g.readRule rule)

/-- Two grammars are equal when they have the same heads and, head by head, the same daughters in
the same order. -/
def equal (g h : Grammar) : Bool :=
  g.buckets.length == h.buckets.length &&
    g.buckets.all fun (head, ds) =>
      h.buckets.any (fun (other, _) => other == head) && h.daughtersOf head == ds

end Grammar

end PhraseStructure
