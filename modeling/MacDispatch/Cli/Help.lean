import MacDispatch.Cli.Command

/-! # Help

The text that explains a command: what it does, how it is written, the commands among which one
is chosen, and its options. -/

namespace MacDispatch.Cli

namespace OptionSpec

/-- How an option is written, in columns that line up whether or not it has a letter. -/
def form (option : OptionSpec) : String :=
  let letter := match option.letter? with
    | some letter => "-" ++ String.singleton letter ++ ", "
    | none => "    "
  let value := match option.role with
    | .value label _ => " <" ++ label ++ ">"
    | _ => ""
  letter ++ "--" ++ option.name ++ value

end OptionSpec

namespace Grammar

variable {α : Type}

/-- Lines of two columns, the second of which lines up. -/
private def columns (rows : List (String × String)) : List String :=
  let width := (rows.map fun (left, _) => left.length).foldl max 0
  rows.map fun (left, right) =>
    "  " ++ left ++ String.ofList (List.replicate (width - left.length) ' ') ++ "  " ++ right

private def block (heading : String) (lines : List String) : List String :=
  if lines.isEmpty then [] else "" :: (heading ++ ":") :: lines

private def helpLines (grammar : Grammar α) (command : CommandSpec α) (names : List String) :
    List String :=
  let further := command.commands.map fun child => (child.name, child.summary)
  let further :=
    if further.isEmpty then []
    else further ++ [(CommandSpec.helpName, "Print this message or the help of other commands")]
  let options := (grammar.options command).map fun option => (option.form, option.summary)
  let wanted := if further.isEmpty then ["[OPTIONS]"] else ["[OPTIONS]", "<COMMAND>"]
  let usage := " ".intercalate (names ++ wanted)
  [command.summary, "", "Usage: " ++ usage] ++ block "Commands" (columns further) ++
    block "Options" (columns options)

/-- The text that explains the command to which a path leads from another one. -/
def helpFrom (grammar : Grammar α) (command : CommandSpec α) (names : List String) :
    List String → String
  | [] => "\n".intercalate (helpLines grammar command names)
  | name :: rest =>
    match command.find? name with
    | some child => helpFrom grammar child (names ++ [name]) rest
    | none => "\n".intercalate (helpLines grammar command names)

def help (grammar : Grammar α) (path : List String) : String :=
  grammar.helpFrom grammar.program [grammar.program.name] path

end Grammar

namespace Usage

def explanation : Usage → String
  | help path => Invocation.grammar.help path
  | version => Invocation.programName ++ " " ++ Invocation.programVersion
  | nothingGiven path => Invocation.grammar.help path
  | missingCommand _ => "error: a command is missing"
  | unknownCommand text => "error: unknown command '" ++ text ++ "'"
  | unknownArgument text => "error: unexpected argument '" ++ text ++ "'"
  | surplusValue option => "error: '--" ++ option ++ "' has no value"
  | missingValue option => "error: the value of '--" ++ option ++ "' is missing"
  | notAmong option text => "error: invalid value '" ++ text ++ "' for '--" ++ option ++ "'"
  | refused option text cause =>
    "error: invalid value '" ++ text ++ "' for '--" ++ option ++ "': " ++ cause
  | repeated option => "error: '--" ++ option ++ "' is given more than once"

end Usage

end MacDispatch.Cli
