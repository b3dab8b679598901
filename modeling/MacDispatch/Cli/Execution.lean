import MacDispatch.Cli.Command
import MacDispatch.Files.Writing
import MacDispatch.Rehearsal.Probe
import MacDispatch.Rehearsal.Replay
import MacDispatch.Report.Listing
import MacDispatch.Settings.Text

/-! # Executing commands

What a command writes to the standard output and to files, and whether it fails. Events are told
on the way. -/

namespace MacDispatch.Cli

structure Execution where
  output : String := ""
  written : List (FilePath × String) := []
  failure? : Option Failure := none

namespace Execution

def ofOutput (output : String) : Execution := { output }

def ofFailure (failure : Failure) (output : String) : Execution :=
  { output, failure? := some failure }

end Execution

/-- The frame that is sent in rehearsals: it announces ten bytes and asks for an
acknowledgement. -/
def sampleFrame : Frame where
  bytes := [0x0a, 0x61, 0x88, 0x2a, 0xcd, 0xab, 0xff, 0xff, 0x34, 0x12, 0x00]

/-- What a command has at its disposal. -/
structure Workplace where
  compiled : FeatureSet
  settings : Settings
  format : OutputFormat
  tree : FileTree

namespace Workplace

def listChannels (place : Workplace) (nonEmpty : Bool) : Traced Execution := do
  let features ← place.settings.featureSet place.compiled
  match ← ProbeBench.assemble features none with
  | .error fault => return .ofFailure fault.failure ""
  | .ok bench =>
    let layouts := bench.engine.layout.filter fun layout =>
      !nonEmpty || !layout.candidates.isEmpty
    return .ofOutput (ChannelLayout.list place.format layouts)

def displaySettings (place : Workplace) : Traced Execution := do
  let enabled ← place.settings.featureSet place.compiled
  let effective : EffectiveSettings := ⟨place.compiled, enabled, place.settings.logging⟩
  return .ofOutput (Output.item place.format effective.outline effective.json)

/-- Checks that every switch has an effect. -/
def validateSettings (place : Workplace) : Traced Execution := do
  let enabled ← place.settings.featureSet place.compiled
  let ineffective := place.settings.features.ineffective place.compiled
  if ineffective.isEmpty then
    return .ofOutput (Output.success ("Configuration is valid (" ++ toString enabled.count ++
      " optional feature(s) enabled)"))
  let warnings := ineffective.map fun feature =>
    Output.warning ("'" ++ feature.name ++ "' is enabled in configuration but not compiled in")
  let failure : Failure := .validation
    (toString ineffective.length ++ " feature switch(es) have no effect in this build")
  return .ofFailure failure (String.join warnings)

def generateSettings (place : Workplace) (path : String) : Execution :=
  let text := Settings.usualFile place.compiled
  match place.tree.write path text with
  | .ok _ =>
    { output := Output.success ("Default config written to '" ++ path ++ "'")
      written := [(.ofText path, text)] }
  | .error fault => .ofFailure (.io fault.message) ""

/-- What is said beforehand about a veto of a feature that is off. -/
def vetoWarning (features : FeatureSet) (veto? : Option Feature) : String :=
  match veto? with
  | some feature =>
    if feature.isEnabledIn features then ""
    else Output.warning ("'" ++ feature.name ++ "' is disabled, its veto will never be consulted")
  | none => ""

def rehearse (place : Workplace) (plan : RehearsalPlan) : Traced Execution := do
  let features ← place.settings.featureSet place.compiled
  let warning := vetoWarning features plan.veto?
  match ← ProbeBench.assemble features plan.veto? with
  | .error fault => return .ofFailure fault.failure warning
  | .ok bench =>
    let stage ← (Replay.run bench ⟨sampleFrame, plan.granted, plan.error⟩).traced
    let (resumed, _) ← (ProbeBench.resumeAll stage.bench sampleFrame).traced
    let rows := ReplayRow.list place.format stage.rows
    let closing :=
      if place.format == .table && !resumed.isEmpty then
        Output.success (toString resumed.length ++ " deferred transmission(s) reported")
      else ""
    return .ofOutput (warning ++ rows ++ closing)

def execute (place : Workplace) : Command → Traced Execution
  | .channels nonEmpty => place.listChannels nonEmpty
  | .settings .display => place.displaySettings
  | .settings .validate => place.validateSettings
  | .settings (.generate path) => pure (place.generateSettings path)
  | .rehearse plan => place.rehearse plan

end Workplace

end MacDispatch.Cli
