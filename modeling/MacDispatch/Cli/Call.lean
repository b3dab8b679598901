import MacDispatch.Cli.Outcome
import MacDispatch.Log.Filter

/-! # Calls

One call of the program. The log is set up as soon as the settings are known, and the events that
the filter in force admits are written to it. A filter with a torn part cannot be set up, and the
program breaks off before the command is executed. -/

namespace MacDispatch.Cli

/-- How a call of the program ends. -/
inductive Call
  | completed (outcome : Outcome) (logged : List Event)
  /-- Without having set up the log. -/
  | brokenOff

namespace Call

/-- The variable that holds the filter which comes before the configured one. -/
def filterVariable : String := "RUST_LOG"

def ofArguments (compiled : FeatureSet) (surroundings : Settings.Surroundings)
    (arguments : List String) : Call :=
  match Outcome.ofArguments compiled surroundings arguments with
  | .executed settings execution =>
    let given := surroundings.environment.lookup filterVariable
    match Filter.inForce? given settings.logging.level with
    | some filter =>
      let outcome := Outcome.executed settings execution
      completed outcome (outcome.events.filter filter.admits)
    | none => brokenOff
  | outcome => completed outcome []

def exitCode : Call → Nat
  | completed outcome _ => outcome.exitCode
  | brokenOff => 101

def output : Call → String
  | completed outcome _ => outcome.output
  | brokenOff => ""

def written : Call → List (FilePath × String)
  | completed outcome _ => outcome.written
  | brokenOff => []

/-- What is said about a failure, apart from the log. -/
def complaint? : Call → Option String
  | completed outcome _ => outcome.complaint?
  | brokenOff => some "The log filter has a part that ends within a character"

def logged : Call → List Event
  | completed _ events => events
  | brokenOff => []

def logsObjects : Call → Bool
  | completed (.executed settings _) _ => settings.logging.format == "json"
  | _ => false

end Call

end MacDispatch.Cli
