import PhraseStructure.Binary64
import PhraseStructure.Production.Basic

/-!
# Values as they are given

Rules, symbols, brackets and positions reach the library as values, and a value may be of a kind
that is of no use where it stands. `Datum` is such a value: a plain one, a symbol or a production,
or a collection of values. Messages show it (`shown`), and where a sequence is expected its elements
are taken (`elements?`).
-/

namespace PhraseStructure

/-- A value that is given to the library, or that the library gives. -/
inductive Datum
  | null
  | bool (b : Bool)
  | int (n : Int)
  | real (x : Binary64)
  | text (s : String)
  | symbol (s : Symbol)
  | production (p : Production)
  | list (elements : List Datum)
  | tuple (elements : List Datum)
  /-- The elements of an ordered set. -/
  | set (elements : List Datum)
  /-- Keys, each with what is kept under it. -/
  | table (entries : List (Datum × Datum))
  deriving Inhabited

namespace Datum

/-- The number that a value is. A truth value is a number, too. -/
def number? : Datum → Option Number
  | bool b => some (.whole (if b then 1 else 0))
  | int n => some (.whole n)
  | real x => some (.binary x)
  | _ => none

/-- A number as a value. -/
def ofNumber : Number → Datum
  | .whole n => int n
  | .binary x => real x

/-- The whole number that a value is. -/
def int? : Datum → Option Int
  | int n => some n
  | bool b => some (if b then 1 else 0)
  | _ => none

/-- Whether two values are numbers that are worth the same. -/
def sameNumber (a b : Datum) : Bool :=
  match a.number?, b.number? with
  | some m, some n => m.same n
  | _, _ => false

mutual

/-- Whether two values are the same. Numbers are compared by what they are worth, and symbols and
texts by their text. Neither in a set nor in a table does the order matter. -/
def same : Datum → Datum → Bool
  | null, null => true
  | text s, text t => s == t
  | text s, symbol t => s == t.text
  | symbol s, text t => s.text == t
  | symbol s, symbol t => s == t
  | production p, production q => p == q
  | list xs, list ys => sameAll xs ys
  | tuple xs, tuple ys => sameAll xs ys
  | set xs, set ys => xs.length == ys.length && allAmong xs ys
  | table xs, table ys => xs.length == ys.length && entriesAmong xs ys
  | a, b => sameNumber a b

/-- Whether two sequences hold the same values in the same order. -/
def sameAll : List Datum → List Datum → Bool
  | [], [] => true
  | x :: xs, y :: ys => same x y && sameAll xs ys
  | _, _ => false

/-- Whether every value of the first sequence occurs in the second. -/
def allAmong : List Datum → List Datum → Bool
  | [], _ => true
  | x :: xs, ys => ys.any (fun y => same x y) && allAmong xs ys

/-- Whether every entry of the first table occurs in the second. -/
def entriesAmong : List (Datum × Datum) → List (Datum × Datum) → Bool
  | [], _ => true
  | (k, x) :: xs, ys => ys.any (fun (m, y) => same k m && same x y) && entriesAmong xs ys

end

instance : BEq Datum := ⟨same⟩

mutual

/-- A value as messages show it. -/
def shown : Datum → String
  | null => "None"
  | bool true => "True"
  | bool false => "False"
  | int n => toString n
  | real x => x.text
  | text s => Text.quoted s
  | symbol s => s.shown
  | production p => p.shown
  | list xs => Text.bracketed (shownAll xs)
  | tuple xs => Text.parenthesized (shownAll xs)
  | set [] => "OrderedSet()"
  | set (x :: xs) => "OrderedSet(" ++ Text.parenthesized (shown x :: shownAll xs) ++ ")"
  | table entries => Text.braced (shownEntries entries)

/-- The elements of a sequence as messages show them. -/
def shownAll : List Datum → List String
  | [] => []
  | x :: xs => shown x :: shownAll xs

/-- The entries of a table as messages show them. -/
def shownEntries : List (Datum × Datum) → List (String × String)
  | [] => []
  | (key, x) :: entries => (shown key, shown x) :: shownEntries entries

end

/-- A value as it is written into running text: a text is not quoted, a symbol is written as its
text, and a production as the text of a rule. -/
def plain : Datum → String
  | text s => s
  | symbol s => s.text
  | production p => p.text
  | d => d.shown

/-- The name of the kind of value. -/
def kindName : Datum → String
  | null => "NoneType"
  | bool _ => "bool"
  | int _ => "int"
  | real _ => "float"
  | text _ => "str"
  | symbol _ => "Symbol"
  | production _ => "Production"
  | list _ => "list"
  | tuple _ => "tuple"
  | set _ => "OrderedSet"
  | table _ => "dict"

/-- The elements of a value that is a sequence: a text is a sequence of characters, a table one of
keys, and a production one of two sides. -/
def elements? : Datum → Option (List Datum)
  | text s => some (s.toList.map fun c => text (String.singleton c))
  | production p => some [tuple (p.head.map symbol), tuple (p.daughters.map symbol)]
  | list xs | tuple xs | set xs => some xs
  | table entries => some (entries.map Prod.fst)
  | _ => none

/-- Whether a value stands for nothing: it is empty, zero or false. -/
def isVoid : Datum → Bool
  | null => true
  | bool b => !b
  | int n => n == 0
  | real x => x.isZero
  | text s => s.isEmpty
  | symbol _ | production _ => false
  | list xs | tuple xs | set xs => xs.isEmpty
  | table entries => entries.isEmpty

mutual

/-- Whether a value may be an element of a set and a key of a table. A collection may only be one if
it is a tuple of values that may. -/
def isKey : Datum → Bool
  | list _ | set _ | table _ => false
  | tuple xs => areKeys xs
  | _ => true

/-- Whether all values of a sequence may be keys. -/
def areKeys : List Datum → Bool
  | [] => true
  | x :: xs => isKey x && areKeys xs

end

/-- The key that is meant by a value: a list of elements means the tuple of them. -/
def asKey : Datum → Datum
  | list elements => tuple elements
  | d => d

end Datum

end PhraseStructure
