import MacDispatch.Cli.Usage

/-! # Reading command lines

A command line is read argument by argument. The value of an option may be attached to it or
stand behind it; in the latter case it is checked when the next option is met, and at the end of
its level, which for a command with a further one is after the latter has been read. -/

namespace MacDispatch.Cli

structure Reading where
  given : Given := []
  /-- An option that was met, and the argument behind it, still to be checked. -/
  pending? : Option (OptionSpec × Option String) := none
  /-- Whether `--` was met, behind which no options are looked for. -/
  closed : Bool := false

namespace Reading

/-- Whether the next argument is the value of an option. -/
def awaitsValue (reading : Reading) : Bool :=
  match reading.pending? with
  | some (_, none) => true
  | _ => false

/-- Takes an option whose argument, if it has one, is complete. -/
def take (reading : Reading) (path : List String) (option : OptionSpec) (text? : Option String) :
    Except Usage Reading :=
  let keep (text : String) : Except Usage Reading :=
    if reading.given.has option.name then .error (.repeated option.name)
    else .ok { reading with given := reading.given ++ [(option.name, text)] }
  match option.role, text? with
  | .flag, _ => keep ""
  | .value _ _, none => .error (.missingValue option.name)
  | .value _ check, some text => do
    let reading ← keep text
    match check text with
    | .ok () => .ok reading
    | .error fault => .error (.ofFault option text fault)
  | .help, _ => .error (.help path)
  | .version, _ => .error .version

/-- Takes the option that is still to be checked. -/
def settle (reading : Reading) (path : List String) : Except Usage Reading :=
  match reading.pending? with
  | none => .ok reading
  | some (option, text?) => { reading with pending? := none }.take path option text?

def meet (reading : Reading) (path : List String) (option : OptionSpec)
    (attached? : Option String) : Except Usage Reading := do
  let reading ← reading.settle path
  if option.takesValue && attached?.isNone then
    return { reading with pending? := some (option, none) }
  else reading.take path option attached?

end Reading

namespace Grammar

variable {α : Type}

/-- Reads an option given by its name, which may have a text attached behind `=`. -/
def readNamed (grammar : Grammar α) (command : CommandSpec α) (path : List String)
    (reading : Reading) (argument : String) : Except Usage Reading :=
  let body := argument.toList.drop 2
  let name := String.ofList (body.takeWhile (· != '='))
  let attached? :=
    match body.dropWhile (· != '=') with
    | [] => none
    | _ :: text => some (String.ofList text)
  match grammar.named? command name with
  | none => .error (.unknownArgument argument)
  | some option =>
    if !option.takesValue && attached?.isSome then .error (.surplusValue option.name)
    else reading.meet path option attached?

/-- Reads options given by their letters. What stands behind the letter of an option with a value
is the value, with or without `=` in front of it. -/
def readLetters (grammar : Grammar α) (command : CommandSpec α) (path : List String)
    (argument : String) : Reading → List Char → Except Usage Reading
  | reading, [] => .ok reading
  | reading, letter :: rest =>
    match grammar.lettered? command letter with
    | none => .error (.unknownArgument argument)
    | some option =>
      if option.takesValue then
        let attached? :=
          match rest with
          | [] => none
          | '=' :: text => some (String.ofList text)
          | text => some (String.ofList text)
        reading.meet path option attached?
      else do readLetters grammar command path argument (← reading.meet path option none) rest

/-- What is said about an argument that is neither an option nor a value nor a command. -/
def stray (command : CommandSpec α) (reading : Reading) (argument : String) : Usage :=
  if command.commands.isEmpty || (reading.closed && command.knows argument) then
    .unknownArgument argument
  else .unknownCommand argument

/-- Reads one argument which is not the name of a command. -/
def readArgument (grammar : Grammar α) (command : CommandSpec α) (path : List String)
    (reading : Reading) (argument : String) : Except Usage Reading :=
  if reading.closed then .error (stray command reading argument)
  else if argument == "--" then .ok { reading with closed := true }
  else if argument.startsWith "--" then grammar.readNamed command path reading argument
  else if argument.startsWith "-" && argument != "-" then
    grammar.readLetters command path argument reading (argument.toList.drop 1)
  else
    match reading.pending? with
    | some (option, none) => .ok { reading with pending? := some (option, some argument) }
    | _ => .error (stray command reading argument)

/-- The help that is asked for by naming commands. -/
def readHelp (command : CommandSpec α) (path : List String) : List String → Usage
  | [] => .help path
  | name :: rest =>
    match command.find? name with
    | some child => readHelp child (path ++ [name]) rest
    | none =>
      if command.knows name then
        match rest with
        | [] => .help (path ++ [name])
        | further :: _ => .unknownCommand further
      else .unknownCommand name

/-- Reads the arguments of a command: what is to be built, and all that was given. -/
def readFrom (grammar : Grammar α) (command : CommandSpec α) (path : List String)
    (reading : Reading) : List String → Except Usage (α × Given)
  | [] => do
    let reading ← reading.settle path
    match command with
    | .action _ _ _ build => return (build reading.given, reading.given)
    | .choice _ _ _ _ =>
      .error (if reading.given.isEmpty then .nothingGiven path else .missingCommand path)
  | argument :: rest =>
    let named? := if reading.closed || reading.awaitsValue then none else command.find? argument
    match named? with
    | some child => do
      let (built, below) ← readFrom grammar child (path ++ [argument]) {} rest
      let reading ← reading.settle path
      return (built, reading.given ++ below)
    | none =>
      if !reading.closed && !reading.awaitsValue && command.knows argument then
        .error (readHelp command path rest)
      else do
        readFrom grammar command path (← grammar.readArgument command path reading argument) rest

def read (grammar : Grammar α) (arguments : List String) : Except Usage (α × Given) :=
  grammar.readFrom grammar.program [] {} arguments

end Grammar

end MacDispatch.Cli
