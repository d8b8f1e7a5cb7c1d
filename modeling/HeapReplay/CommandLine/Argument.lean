namespace HeapReplay.CommandLine

/-- An option that takes a value. -/
structure Flag where
  name : String
  letter : Option Char := none
  deriving DecidableEq, Repr

/-- What one argument is: an option by its name or its letter, perhaps with a
    value attached, the mark after which there are no options, or a word. -/
inductive Argument where
  | named (name : String) (value : Option String)
  | lettered (letter : Char) (value : Option String)
  | mark
  | word (text : String)
  deriving DecidableEq, Repr

namespace Argument

/-- Splits an option's name from the value behind an equals sign. -/
def splitValue (text : List Char) : String × Option String :=
  let name := text.takeWhile (· != '=')
  match text.drop name.length with
  | [] => (String.ofList name, none)
  | _ :: value => (String.ofList name, some (String.ofList value))

/-- The value attached to a letter: what follows it, without an equals sign. -/
def attached? : List Char → Option String
  | [] => none
  | '=' :: value => some (String.ofList value)
  | value => some (String.ofList value)

/-- Reads an argument. A lone dash is a word. -/
def ofString (text : String) : Argument :=
  match text.toList with
  | ['-', '-'] => .mark
  | '-' :: '-' :: rest =>
    let (name, value) := splitValue rest
    .named name value
  | '-' :: letter :: rest => .lettered letter (attached? rest)
  | _ => .word text

/-- The option that an argument names, with the value attached to it. -/
def flag? (flags : List Flag) : Argument → Option (Flag × Option String)
  | .named name value => (flags.find? (·.name == name)).map (·, value)
  | .lettered letter value => (flags.find? (·.letter == some letter)).map (·, value)
  | _ => none

end Argument

/-- Options with their values, in the order in which they were given. -/
abbrev Assignments := List (String × String)

/-- Reads options up to the first word that is no value of one, and gives the
    arguments from that word on. An option has its value attached, or else the
    next argument is a word and is the value. Nothing may follow the mark. -/
def readAssignments (flags : List Flag) : List String → Option (Assignments × List String)
  | [] => some ([], [])
  | text :: rest =>
    match Argument.ofString text with
    | .word _ => some ([], text :: rest)
    | .mark => if rest.isEmpty then some ([], []) else none
    | argument =>
      match argument.flag? flags, rest with
      | some (flag, some value), rest => do
        let (assignments, words) ← readAssignments flags rest
        some ((flag.name, value) :: assignments, words)
      | some (flag, none), value :: rest =>
        match Argument.ofString value with
        | .word _ => do
          let (assignments, words) ← readAssignments flags rest
          some ((flag.name, value) :: assignments, words)
        | _ => none
      | _, _ => none

namespace Assignments

/-- Whether no option is given twice. -/
def areDistinct (assignments : Assignments) : Bool := decide (assignments.map (·.1)).Nodup

/-- The value of an option if it is given; no result when it cannot be read. -/
def read? {α : Type} (assignments : Assignments) (name : String) (read : String → Option α) :
    Option (Option α) :=
  match assignments.lookup name with
  | none => some none
  | some text => some <$> read text

end Assignments
end HeapReplay.CommandLine
