/-!
# Log entries

Operations report what they did, and what they left out, in entries of a log. An operation returns
its entries beside its result; nothing is written anywhere.
-/

namespace PhraseStructure

/-- How much attention an entry asks for. -/
inductive Log.Level
  | debug
  | info
  | warning
  deriving DecidableEq, Repr

/-- One line of a log. -/
structure Log.Entry where
  level : Log.Level
  text : String
  deriving DecidableEq, Repr

/-- The name of a level. -/
def Log.Level.name : Log.Level → String
  | debug => "DEBUG"
  | info => "INFO"
  | warning => "WARNING"

/-- An entry with its level in front. -/
def Log.Entry.line (e : Log.Entry) : String := e.level.name ++ ":" ++ e.text

/-- A result with the entries that were made on the way to it. -/
structure Logged (α : Type) where
  log : List Log.Entry
  result : α

end PhraseStructure
