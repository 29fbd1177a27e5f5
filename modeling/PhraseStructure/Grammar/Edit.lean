import PhraseStructure.Grammar.Alphabet
import PhraseStructure.Log

/-!
# Editing a grammar

Productions are added behind those with the same head, and removed by their index or in reverse
order of addition. An operation that fails may leave the grammar changed, so the grammar it leaves
is part of what it returns (`Edited`).
-/

namespace PhraseStructure

/-- What an operation on a grammar leaves and returns. -/
structure Edited (α : Type) where
  grammar : Grammar
  log : List Log.Entry
  result : Except Fault α

namespace Grammar

/-- The log entry for an added production. -/
def addedEntry (p : Production) : Log.Entry := ⟨.debug, "added " ++ p.text⟩

/-- The log entry for a removed production. -/
def removedEntry (p : Production) : Log.Entry := ⟨.debug, "removed " ++ p.text⟩

variable (g : Grammar)

/-- The grammar with one more production. -/
def add (p : Production) : Grammar :=
  { g with
    buckets := addTo p.head [p.daughters] g.buckets
    additions := g.additions ++ [p.head] }

/-- A grammar of its own with the same conventions, the same productions and the same start
symbol. -/
def copy : Grammar :=
  { empty g.conventions with buckets := g.buckets, additions := g.additions, start := g.start }

/-- Adds a rule behind the productions with the same head. -/
def push (rule : Datum) : Edited Production :=
  match g.readRule rule with
  | .ok p => ⟨g.add p, [addedEntry p], .ok p⟩
  | .error fault => ⟨g, [], .error fault⟩

/-- Adds the productions of a sequence up to the first that cannot be read. -/
def addReadings (g : Grammar) : List (Except Fault Production) → Edited Unit
  | [] => ⟨g, [], .ok ()⟩
  | .error fault :: _ => ⟨g, [], .error fault⟩
  | .ok p :: rest =>
      let later := (g.add p).addReadings rest
      { later with log := addedEntry p :: later.log }

/-- The first symbol of the head that was added first and is still there. A head without symbols
has no first one. -/
def defaultStart : Except Fault (Option Symbol) :=
  match g.additions with
  | [] => .ok none
  | [] :: _ => .error .outOfRange
  | (s :: _) :: _ => .ok (some s)

/-- Keeps `start` if it is a non-terminal of the grammar, and chooses the default otherwise. -/
def inheritStart (start : Option Symbol) : Except Fault Grammar := do
  match start with
  | some s => if g.nonterminals.contains s then return { g with start := some s }
  | none => pure ()
  return { g with start := ← g.defaultStart }

/-- Makes a non-terminal the start symbol. -/
def setStart (symbol : Datum) : Edited Unit :=
  match Symbol.read symbol g.conventions.brackets with
  | .error fault => ⟨g, [], .error fault⟩
  | .ok s =>
      if g.nonterminals.contains s then ⟨{ g with start := some s }, [], .ok ()⟩
      else ⟨g, [], .error (.badStart s.text)⟩

/-- The list without the `n`-th of the heads equal to `head`. -/
def forget (head : List Symbol) : Nat → List (List Symbol) → List (List Symbol)
  | _, [] => []
  | n, h :: rest =>
      if h == head then
        match n with
        | 0 => rest
        | n + 1 => h :: forget head n rest
      else h :: forget head n rest

/-- The buckets without the `n`-th daughters under a head; an empty bucket is removed. -/
def eraseFrom (head : List Symbol) (n : Nat) : List Bucket → List Bucket
  | [] => []
  | (h, ds) :: rest =>
      if h == head then
        if (ds.eraseIdx n).isEmpty then rest else (h, ds.eraseIdx n) :: rest
      else (h, ds) :: eraseFrom head n rest

/-- The grammar without the `n`-th production with a head; the start symbol stays as it is. -/
def erase (head : List Symbol) (n : Nat) : Grammar :=
  { g with
    buckets := eraseFrom head n g.buckets
    additions := forget head n g.additions }

/-- Removes and returns the `n`-th production with a head. The production is made after the removal,
with the grammar's brackets. -/
def removeAt (head : List Symbol) (n : Nat) : Edited Production :=
  match (g.daughtersOf head)[n]? with
  | none => ⟨g, [], .error .outOfRange⟩
  | some daughters =>
      let erased := g.erase head n
      match erased.inheritStart g.start with
      | .error fault => ⟨erased, [], .error fault⟩
      | .ok rest =>
          match Production.rewrap head daughters g.conventions.brackets with
          | .error fault => ⟨rest, [], .error fault⟩
          | .ok p => ⟨rest, [removedEntry p], .ok p⟩

/-- Removes and returns the production at an index; without an index, the one added last. -/
def pop : Option Int → Edited Production
  | none =>
      match g.additions.getLast? with
      | none => ⟨g, [], .error .popEmpty⟩
      | some head => g.removeAt head ((g.daughtersOf head).length - 1)
  | some i =>
      match g.locate i with
      | none => ⟨g, [], .error .popRange⟩
      | some (head, n) => g.removeAt head n

/-- Removes and returns the production at an index that is given; without an index, the one added
last. -/
def popGiven (given : Datum) : Edited Production :=
  match given with
  | .null => g.pop none
  | _ =>
      match g.readIndex given with
      | .ok (some i) => g.pop (some i)
      | .ok none => ⟨g, [], .error .popRange⟩
      | .error fault => ⟨g, [], .error fault⟩

end Grammar

end PhraseStructure
