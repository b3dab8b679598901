import MacDispatch.Cli.Execution
import MacDispatch.Cli.Help
import MacDispatch.Settings.Load
import MacDispatch.Settings.Standard

/-! # Outcomes

What comes of a command line: it is read, the settings are loaded, and the command is executed. -/

namespace MacDispatch.Cli

inductive Outcome
  | usage (usage : Usage)
  | unloaded (fault : LoadFault)
  | executed (settings : Settings) (execution : Traced Execution)

namespace Outcome

def environmentVariable : String := "RADIO_MAC_ENV"

def environmentName (surroundings : Settings.Surroundings) : String :=
  (surroundings.environment.lookup environmentVariable).getD "development"

def placesOf (surroundings : Settings.Surroundings) (invocation : Invocation) : List FilePath :=
  let names :=
    match invocation.settingsPath? with
    | some path => [path]
    | none => Settings.fileNames (environmentName surroundings)
  let written :=
    match invocation.command with
    | .settings (.generate path) => [FilePath.ofText path]
    | _ => []
  names.flatMap SettingsFile.places ++ written

def loadSettings (compiled : FeatureSet) (surroundings : Settings.Surroundings)
    (invocation : Invocation) : Except LoadFault Settings :=
  match invocation.settingsPath? with
  | some path => Settings.fromFile .basic compiled surroundings path
  | none => Settings.load .basic compiled surroundings (environmentName surroundings)

def ofArguments (compiled : FeatureSet) (surroundings : Settings.Surroundings)
    (arguments : List String) : Outcome :=
  match Invocation.ofArguments arguments with
  | .error fault => usage fault
  | .ok invocation =>
    match loadSettings compiled surroundings invocation with
    | .error fault => unloaded fault
    | .ok settings =>
      let place : Workplace :=
        { compiled, settings, format := invocation.format, tree := surroundings.tree }
      executed settings (place.execute invocation.command)

def commandFailed (failure : Failure) : Event where
  level := .error
  target := "radio_mac"
  message := "Command failed: " ++ failure.text

def exitCode : Outcome → Nat
  | usage fault => fault.exitCode
  | unloaded _ => 1
  | executed _ execution => if execution.value.failure?.isSome then 1 else 0

def output : Outcome → String
  | usage fault => if fault.isAnswer then Output.line fault.explanation else ""
  | unloaded _ => ""
  | executed _ execution => execution.value.output

def written : Outcome → List (FilePath × String)
  | executed _ execution => execution.value.written
  | _ => []

def complaint? : Outcome → Option String
  | usage fault => if fault.isAnswer then none else some fault.explanation
  | unloaded fault => some ("Failed to load configuration: " ++ fault.failure.text)
  | executed _ execution =>
    execution.value.failure?.map fun failure => "Error: " ++ failure.text

/-- The events that are told, of which a failure is the last. -/
def events : Outcome → List Event
  | executed _ execution =>
    execution.events ++ execution.value.failure?.toList.map commandFailed
  | _ => []

end Outcome

end MacDispatch.Cli
