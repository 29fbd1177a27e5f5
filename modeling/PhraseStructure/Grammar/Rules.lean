import PhraseStructure.Datum.Sequence
import PhraseStructure.Grammar.Edit

/-!
# Sequences of rules

Rules are given as a text, as any other sequence of rules, as a table of heads and their daughters,
or as another grammar. This module reads them one by one (`Rules.readings`), adds them to a grammar
(`extend`), and makes a new grammar of them (`make`).

A grammar may be extended by itself. Its productions are then read while it grows, which is
modelled by a reading position that stays valid in the growing grammar (`Cursor`).
-/

namespace PhraseStructure

/-- What may be given as a sequence of rules. -/
inductive Rules
  | given (value : Datum)
  | grammar (g : Grammar)
  /-- The very grammar that is being worked on. -/
  | itself

namespace Rules

/-- The rules in a text: its pieces between line separators that are not blank. Without a separator
the pieces stand between blanks; an empty separator separates nothing. -/
def ofText (s : String) (separator : Datum) : Except Fault (List Datum) := do
  let pieces ←
    match separator with
    | .null => pure (Text.words s.toList)
    | .text sep =>
        if h : sep.toList ≠ [] then pure (Text.splitOn sep.toList h s.toList)
        else throw .unusable
    | _ => throw .wrongKind
  return (pieces.filter (!Text.allBlank ·)).map fun piece => .text (String.ofList piece)

/-- The value that was given last for a key. -/
def lastValue (k : Datum) (first : Datum) : List (Datum × Datum) → Datum
  | [] => first
  | (k', v) :: rest => lastValue k (if k' == k then v else first) rest

/-- The entries of a table: each key once, where it came first, with the value that came last. -/
def entriesFrom (seen : List Datum) : List (Datum × Datum) → List (Datum × Datum)
  | [] => []
  | (k, v) :: rest =>
      if seen.contains k then entriesFrom seen rest
      else (k, lastValue k v rest) :: entriesFrom (k :: seen) rest

/-- The table of given heads, all of which have to be keys. -/
def table (given : List (Datum × Datum)) : Except Fault Datum :=
  let entries := given.map fun (k, v) => (k.asKey, v)
  if entries.all fun (k, _) => k.isKey then .ok (.table (entriesFrom [] entries))
  else .error .wrongKind

/-- The productions of a sequence of rules one by one, under the conventions of `g`. A table is a
sequence of its heads. -/
def readings (rules : Rules) (g : Grammar) : Except Fault (List (Except Fault Production)) := do
  match rules with
  | given (.text s) => return (← ofText s g.conventions.lineSeparator).map g.readRule
  | given d => return (← d.toElements).map g.readRule
  | grammar h => return h.readings
  | itself => return g.readings

/-- The start symbol of the grammar that is given. -/
def start? (rules : Rules) (g : Grammar) : Option Symbol :=
  match rules with
  | given _ => none
  | grammar h => h.start
  | itself => g.start

end Rules

/-- A place between the productions of a grammar: a bucket, and a place in it. -/
structure Cursor where
  bucket : Nat
  place : Nat

namespace Grammar

/-- The next head and daughters at a cursor, and the cursor behind them. An exhausted bucket is left
for the next one. -/
def next? (g : Grammar) (c : Cursor) : Option (List Symbol × List Symbol × Cursor) :=
  match _h : g.buckets[c.bucket]? with
  | none => none
  | some (head, ds) =>
      match ds[c.place]? with
      | some d => some (head, d, ⟨c.bucket, c.place + 1⟩)
      | none => g.next? ⟨c.bucket + 1, 0⟩
termination_by g.buckets.length - c.bucket
decreasing_by
  have hlt : c.bucket < g.buckets.length := (List.getElem?_eq_some_iff.mp _h).1
  omega

/-- Adds the productions behind a cursor to the grammar they are read from, in at most `budget`
steps; nothing when these do not reach the end. -/
def growFrom (g : Grammar) : Nat → Cursor → Option (Edited Unit)
  | 0, _ => none
  | budget + 1, c =>
      match g.next? c with
      | none => some ⟨g, [], .ok ()⟩
      | some (head, d, c') =>
          match Production.rewrap head d g.conventions.brackets with
          | .error fault => some ⟨g, [], .error fault⟩
          | .ok p =>
              ((g.add p).growFrom budget c').map fun later =>
                { later with log := addedEntry p :: later.log }

/-- Extends a grammar by its own productions while these are being added. One step more than there
are productions is tried. -/
def extendByItself (g : Grammar) : Edited Unit :=
  (g.growFrom (g.size + 1) ⟨0, 0⟩).getD ⟨g, [], .error .endless⟩

/-- Adds each of a sequence of rules. Those before one that cannot be read stay added. -/
def extend (g : Grammar) (rules : Rules) : Edited Unit :=
  match rules with
  | .itself => g.extendByItself
  | _ =>
      match rules.readings g with
      | .ok readings => g.addReadings readings
      | .error fault => ⟨g, [], .error fault⟩

/-- Takes over the heads and daughters of a table; heads with nothing under them are left out. The
heads are not checked. -/
def addEntries (g : Grammar) : List (Datum × Datum) → Except Fault Grammar
  | [] => .ok g
  | (head, bucket) :: rest =>
      if bucket.isVoid then g.addEntries rest
      else do
        let head ← Production.readSide head g.conventions.brackets
        let some elements := bucket.elements? | throw .wrongKind
        let daughters ← elements.mapM (Production.readSide · g.conventions.brackets)
        addEntries
          { g with
            buckets := addTo head daughters g.buckets
            additions := g.additions ++ daughters.map fun _ => head }
          rest

/-- The grammar of a table, with its log entry. -/
def ofEntries (conventions : Conventions) (entries : List (Datum × Datum)) : Edited Unit :=
  match (empty conventions).addEntries entries with
  | .error fault => ⟨empty conventions, [], .error fault⟩
  | .ok g =>
      let entry := ⟨.debug, "grammar from mapping with " ++ toString g.buckets.length ++
        " heads; not validated"⟩
      ⟨g, [entry], .ok ()⟩

/-- The grammar of a sequence of rules before its start symbol is chosen. -/
def collect (conventions : Conventions) : Rules → Edited Unit
  | .given .null => ⟨empty conventions, [], .ok ()⟩
  | .given (.table entries) => ofEntries conventions entries
  | rules => (empty conventions).extend rules

/-- Makes a grammar of a sequence of rules. Without a chosen start symbol, the first symbol of the
first head is it. -/
def make (conventions : Conventions) (rules : Rules) (start : Datum) :
    Logged (Except Fault Grammar) :=
  let collected := collect conventions rules
  let result := do
    collected.result
    match start with
    | .null => return { collected.grammar with start := ← collected.grammar.defaultStart }
    | _ =>
        let chosen := collected.grammar.setStart start
        chosen.result
        return chosen.grammar
  ⟨collected.log, result⟩

/-- The productions of both grammars; what occurs in both is kept twice. The start symbol is that
of the first grammar, or else that of the second. -/
def union (g : Grammar) (rules : Rules) : Logged (Except Fault Grammar) :=
  match rules.readings g with
  | .error fault => ⟨[], .error fault⟩
  | .ok readings =>
      let extended := g.copy.addReadings readings
      ⟨extended.log, do
        extended.result
        extended.grammar.inheritStart (g.start <|> rules.start? g)⟩

/-- The readings without the excluded productions. -/
def withoutProductions (excluded : List Production) (readings : List (Except Fault Production)) :
    List (Except Fault Production) :=
  readings.filter fun
    | .ok p => !excluded.contains p
    | .error _ => true

/-- The productions that do not occur among the given rules. -/
def difference (g : Grammar) (rules : Rules) : Logged (Except Fault Grammar) :=
  match rules.readings g >>= (·.mapM id) with
  | .error fault => ⟨[], .error fault⟩
  | .ok excluded =>
      let kept := (empty g.conventions).addReadings (withoutProductions excluded g.readings)
      ⟨kept.log, do
        kept.result
        kept.grammar.inheritStart g.start⟩

/-- The union with a grammar; nothing else can be added as a whole. -/
def plus (g : Grammar) (rules : Rules) : Logged (Except Fault Grammar) :=
  match rules with
  | .given _ => ⟨[], .error .wrongKind⟩
  | _ => g.union rules

/-- The difference from a grammar; nothing else can be taken away as a whole. -/
def minus (g : Grammar) (rules : Rules) : Logged (Except Fault Grammar) :=
  match rules with
  | .given _ => ⟨[], .error .wrongKind⟩
  | _ => g.difference rules

end Grammar

end PhraseStructure
