/-! # Command line grammars

What may stand on a command line: commands, some of which ask for a further command, and the
options of each. Global options are understood at every level. -/

namespace MacDispatch.Cli

inductive ValueFault
  /-- It is none of a few fixed words. -/
  | notAmong
  | refused (cause : String)
deriving DecidableEq, Repr

/-- Reads the text of a value. -/
abbrev ValueReader (α : Type) := String → Except ValueFault α

inductive OptionRole
  | flag
  | value (label : String) (check : ValueReader Unit)
  | help
  | version

structure OptionSpec where
  name : String
  letter? : Option Char := none
  role : OptionRole
  summary : String

namespace OptionSpec

def takesValue (option : OptionSpec) : Bool :=
  match option.role with
  | .value _ _ => true
  | _ => false

def ofReader {α : Type} (name : String) (letter? : Option Char) (label : String)
    (reader : ValueReader α) (summary : String) : OptionSpec where
  name := name
  letter? := letter?
  role := .value label fun text => (reader text).map fun _ => ()
  summary := summary

end OptionSpec

/-- What was given on a command line: the names and texts of options, in the order of the levels
at which they were given. A flag has the empty text. -/
abbrev Given := List (String × String)

namespace Given

def has (given : Given) (name : String) : Bool := given.any (·.1 == name)

/-- The text of an option. The one at the deepest level counts. -/
def text? (given : Given) (name : String) : Option String := given.reverse.lookup name

def value? {α : Type} (given : Given) (reader : ValueReader α) (name : String) : Option α :=
  (given.text? name).bind fun text => (reader text).toOption

end Given

/-- A command: one that is carried out, or one that asks for a further command. -/
inductive CommandSpec (α : Type)
  | action (name summary : String) (options : List OptionSpec) (build : Given → α)
  | choice (name summary : String) (options : List OptionSpec) (commands : List (CommandSpec α))

namespace CommandSpec

variable {α : Type}

def name : CommandSpec α → String
  | action name _ _ _ => name
  | choice name _ _ _ => name

def summary : CommandSpec α → String
  | action _ summary _ _ => summary
  | choice _ summary _ _ => summary

def options : CommandSpec α → List OptionSpec
  | action _ _ options _ => options
  | choice _ _ options _ => options

def commands : CommandSpec α → List (CommandSpec α)
  | action _ _ _ _ => []
  | choice _ _ _ commands => commands

/-- The command that asks for help about others, which stands beside all of them. -/
def helpName : String := "help"

def find? (command : CommandSpec α) (name : String) : Option (CommandSpec α) :=
  command.commands.find? fun child => child.name == name

def knows (command : CommandSpec α) (name : String) : Bool :=
  (command.find? name).isSome || (!command.commands.isEmpty && name == helpName)

end CommandSpec

/-- A grammar: the program, and the options that are understood at every level. -/
structure Grammar (α : Type) where
  program : CommandSpec α
  globals : List OptionSpec

namespace Grammar

variable {α : Type}

def helpOption : OptionSpec where
  name := "help"
  letter? := some 'h'
  role := .help
  summary := "Print help"

def options (grammar : Grammar α) (command : CommandSpec α) : List OptionSpec :=
  command.options ++ grammar.globals ++ [helpOption]

def named? (grammar : Grammar α) (command : CommandSpec α) (name : String) : Option OptionSpec :=
  (grammar.options command).find? fun option => option.name == name

def lettered? (grammar : Grammar α) (command : CommandSpec α) (letter : Char) :
    Option OptionSpec :=
  (grammar.options command).find? fun option => option.letter? == some letter

end Grammar

end MacDispatch.Cli
