import MacDispatch.Cli.Reading
import MacDispatch.Cli.Values
import MacDispatch.Radio.Names
import MacDispatch.Radio.Feature
import MacDispatch.Radio.Priority
import MacDispatch.Report.Output

/-! # Commands

The commands of the program and how they are written on its command line. -/

namespace MacDispatch.Cli

inductive SettingsCommand
  /-- They are shown as they take effect. -/
  | display
  /-- They are checked against what the build contains. -/
  | validate
  /-- The usual settings are written to a file. -/
  | generate (path : String)
deriving DecidableEq, Repr

structure RehearsalPlan where
  veto? : Option Feature := none
  error : TxError := .noAck
  granted : Priority := ⟨1⟩
deriving DecidableEq, Repr

inductive Command
  | channels (nonEmpty : Bool)
  | settings (command : SettingsCommand)
  | rehearse (plan : RehearsalPlan)
deriving DecidableEq, Repr

structure Invocation where
  /-- The settings file; without it, the settings are those of the environment. -/
  settingsPath? : Option String := none
  format : OutputFormat := .table
  command : Command
deriving DecidableEq, Repr

namespace Command

private def channelsSpec : CommandSpec Command :=
  .action "channels" "Show each channel's policy and candidate order"
    [{ name := "non-empty", role := .flag
       summary := "Only list channels with at least one candidate" }]
    fun given => .channels (given.has "non-empty")

/-- Where generated settings go, unless another place is given. -/
def generatedPath : String := "config/generated.toml"

private def settingsSpec : CommandSpec Command :=
  .choice "config" "Configuration management" [] [
    .action "show" "Show the resolved feature set and logging settings" []
      fun _ => .settings .display,
    .action "validate" "Check configured switches against the compiled-in features" []
      fun _ => .settings .validate,
    .action "generate" "Generate a default configuration file"
      [.ofReader "output" (some 'o') "OUTPUT" anyText
        "Output file path [default: config/generated.toml]"]
      fun given => .settings (.generate ((given.text? "output").getD generatedPath))]

private def rehearseSpec : CommandSpec Command :=
  .action "simulate" "Replay a transmit/receive sequence through probe modules"
    [.ofReader "veto" none "VETO" (nameOf Feature)
        "Feature whose probe answers `false` on every boolean channel",
      .ofReader "tx-error" none "TX_ERROR" (nameOf TxError)
        "Error reported on the failed-transmission step [default: no_ack]",
      .ofReader "priority" none "PRIORITY" count
        "Priority granted by the radio scheduler at the start of the sequence [default: 1]"]
    fun given =>
      let usual : RehearsalPlan := {}
      .rehearse
        { veto? := given.value? (nameOf Feature) "veto"
          error := (given.value? (nameOf TxError) "tx-error").getD usual.error
          granted := ((given.value? count "priority").map Priority.mk).getD usual.granted }

end Command

namespace Invocation

def programName : String := "radio-mac"

def programVersion : String := "0.1.0"

def grammar : Grammar Command where
  program :=
    .choice programName "Radio MAC: inspect and exercise the 802.15.4 MAC hook layer"
      [{ name := "version", letter? := some 'V', role := .version, summary := "Print version" }]
      [Command.channelsSpec, Command.settingsSpec, Command.rehearseSpec]
  globals := [
    .ofReader "config" (some 'c') "CONFIG" anyText
      "Path to a configuration file (defaults to config/default + overlay)",
    .ofReader "format" (some 'f') "FORMAT" (choice OutputFormat)
      "Output format [default: table] [possible values: table, json]"]

def ofArguments (arguments : List String) : Except Usage Invocation := do
  let (command, given) ← grammar.read arguments
  return {
    settingsPath? := given.text? "config"
    format := (given.value? (choice OutputFormat) "format").getD .table
    command := command }

end Invocation

end MacDispatch.Cli
