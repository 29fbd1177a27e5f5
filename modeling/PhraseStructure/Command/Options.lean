/-!
# Options of a command

Options and other arguments of a command line may be mixed. An option is a letter after a dash, or a
name after two dashes, and a name may be shortened as long as it is clear which one is meant. Two
dashes alone end the options.
-/

namespace PhraseStructure.Command

/-- The options that a command knows. -/
structure OptionTable where
  /-- The letters of options without an argument. -/
  letters : List Char
  /-- The names of options without an argument. -/
  flags : List String
  /-- The names of options with an argument. -/
  settings : List String

/-- Why a command line is refused. -/
inductive OptionFault
  | unknownLetter (letter : Char)
  | unknownName (name : String)
  | ambiguousName (name : String)
  | missingArgument (name : String)
  | needlessArgument (name : String)
  deriving DecidableEq, Repr

/-- The wording of a refusal. -/
def OptionFault.message : OptionFault → String
  | unknownLetter letter => "option -" ++ String.singleton letter ++ " not recognized"
  | unknownName name => "option --" ++ name ++ " not recognized"
  | ambiguousName name => "option --" ++ name ++ " not a unique prefix"
  | missingArgument name => "option --" ++ name ++ " requires argument"
  | needlessArgument name => "option --" ++ name ++ " must not have an argument"

/-- An option that is set. -/
inductive Setting
  | letter (c : Char)
  | flag (name : String)
  | setting (name value : String)
  deriving DecidableEq, Repr

/-- What a command line holds. -/
structure Arguments where
  settings : List Setting
  /-- The arguments that are no options. -/
  operands : List String
  deriving DecidableEq, Repr

namespace Arguments

/-- The arguments with one more option in front. -/
def withSetting (s : Setting) (a : Arguments) : Arguments := { a with settings := s :: a.settings }

/-- The arguments with one more operand in front. -/
def withOperand (operand : String) (a : Arguments) : Arguments :=
  { a with operands := operand :: a.operands }

/-- Whether a flag is set, by its name or by a letter. -/
def isSet (a : Arguments) (name : String) (letter : Char) : Bool :=
  a.settings.contains (.flag name) || a.settings.contains (.letter letter)

/-- Whether a flag is set by its name. -/
def hasFlag (a : Arguments) (name : String) : Bool := a.settings.contains (.flag name)

/-- The value that a setting was given last. -/
def value? (a : Arguments) (name : String) : Option String :=
  (a.settings.filterMap fun
    | .setting n v => if n = name then some v else none
    | _ => none).getLast?

end Arguments

namespace OptionTable

variable (t : OptionTable)

/-- The option with a name, or with a name that starts like this; and whether it takes an
argument. -/
def resolve (name : String) : Except OptionFault (String × Bool) :=
  if t.flags.contains name then .ok (name, false)
  else if t.settings.contains name then .ok (name, true)
  else
    let startsLike := fun full : String => name.toList.isPrefixOf full.toList
    match (t.flags.filter startsLike).map (·, false) ++
        (t.settings.filter startsLike).map (·, true) with
    | [] => .error (.unknownName name)
    | [option] => .ok option
    | _ => .error (.ambiguousName name)

/-- The options of several letters after one dash. -/
def readLetters : List Char → Except OptionFault (List Setting)
  | [] => .ok []
  | c :: cs =>
      if t.letters.contains c then do return .letter c :: (← readLetters cs)
      else .error (.unknownLetter c)

/-- The name in a long option, and the argument after the first equals sign. -/
def splitName (cs : List Char) : String × Option String :=
  let name := String.ofList (cs.takeWhile (· ≠ '='))
  match cs.dropWhile (· ≠ '=') with
  | [] => (name, none)
  | _ :: value => (name, some (String.ofList value))

/-- Reads the arguments of a command. -/
def read : List String → Except OptionFault Arguments
  | [] => .ok ⟨[], []⟩
  | arg :: rest =>
      match arg.toList with
      | ['-', '-'] => .ok ⟨[], rest⟩
      | '-' :: '-' :: cs => do
          let (given, argument) := splitName cs
          let (name, takesArgument) ← t.resolve given
          if takesArgument then
            match argument with
            | some value => return (← read rest).withSetting (.setting name value)
            | none =>
                match rest with
                | value :: rest => return (← read rest).withSetting (.setting name value)
                | [] => throw (.missingArgument name)
          else
            match argument with
            | some _ => throw (.needlessArgument name)
            | none => return (← read rest).withSetting (.flag name)
      | '-' :: c :: cs => do
          let letters ← t.readLetters (c :: cs)
          let later ← read rest
          return { later with settings := letters ++ later.settings }
      | _ => do return (← read rest).withOperand arg

end OptionTable

end PhraseStructure.Command
