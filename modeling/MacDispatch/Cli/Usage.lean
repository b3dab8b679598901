import MacDispatch.Cli.Grammar

/-! # Usage

Why a command line does not lead to a command: it asks for help or for the version, or it does
not follow the grammar. -/

namespace MacDispatch.Cli

/-- Why a command line does not lead to a command. `path` holds the names of the commands up to
the one that is spoken of. -/
inductive Usage
  | help (path : List String)
  | version
  /-- Nothing was given where a command is asked for. -/
  | nothingGiven (path : List String)
  | missingCommand (path : List String)
  | unknownCommand (text : String)
  | unknownArgument (text : String)
  /-- A value was attached to an option that has none. -/
  | surplusValue (option : String)
  | missingValue (option : String)
  | notAmong (option text : String)
  | refused (option text cause : String)
  | repeated (option : String)
deriving DecidableEq, Repr

namespace Usage

def cause? : Usage → Option String
  | refused _ _ cause => some cause
  | _ => none

def isAnswer : Usage → Bool
  | help _ => true
  | version => true
  | _ => false

def exitCode (usage : Usage) : Nat := if usage.isAnswer then 0 else 2

def ofFault (option : OptionSpec) (text : String) : ValueFault → Usage
  | .notAmong => notAmong option.name text
  | .refused cause => refused option.name text cause

end Usage

end MacDispatch.Cli
