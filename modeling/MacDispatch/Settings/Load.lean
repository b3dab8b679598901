import MacDispatch.Failure
import MacDispatch.Settings.Basic
import MacDispatch.Settings.Reader

/-! # Loading settings

Settings come from files and from the environment, the latter laid over the former. Each setting
is read from the entry that is left for it; one about which nothing is said is as the build has
it. -/

namespace MacDispatch

inductive LoadFault
  | build (cause : FileFault)
  | read (path : String) (cause : FileFault)
  | decode (cause : SettingFault)
deriving DecidableEq, Repr

namespace LoadFault

def context : LoadFault → String
  | build _ => "Failed to build config: "
  | read path _ => "Failed to read config '" ++ path ++ "': "
  | decode _ => "Failed to deserialize config: "

def cause : LoadFault → String
  | build cause => cause.message
  | read _ cause => cause.message
  | decode cause => cause.message

def failure (fault : LoadFault) : Failure := .configuration (fault.context ++ fault.cause)

end LoadFault

namespace Settings

variable (reader : SettingsReader)

def switchesOf (fallback : Switches) (entry : Entry) : Except SettingFault Switches := do
  let view ← reader.view "features" "FeatureConfig" entry
  let csmaCa ← view.get reader.bool 0 "csma_ca" fallback.csmaCa
  let ackTimeout ← view.get reader.bool 1 "ack_timeout" fallback.ackTimeout
  let delayedTrx ← view.get reader.bool 2 "delayed_trx" fallback.delayedTrx
  let ifs ← view.get reader.bool 3 "ifs" fallback.ifs
  return ⟨csmaCa, ackTimeout, delayedTrx, ifs⟩

def loggingOf (fallback : Logging) (entry : Entry) : Except SettingFault Logging := do
  let view ← reader.view "logging" "LoggingConfig" entry
  let level ← view.get reader.text 0 "level" fallback.level
  let format ← view.get reader.text 1 "format" fallback.format
  return ⟨level, format⟩

/-- A section as it is read from the entry under its key, or the given one if nothing is said about
it. -/
def sectionOr {α : Type} (entries : Entries) (key : String)
    (read : Entry → Except SettingFault α) (fallback : α) : Except SettingFault α :=
  match entries.get? key with
  | some entry => read entry
  | none => .ok fallback

def ofEntries (compiled : FeatureSet) (entries : Entries) : Except SettingFault Settings := do
  let usual := Settings.default compiled
  let features ← sectionOr entries "features" (switchesOf reader usual.features) usual.features
  let logging ← sectionOr entries "logging" (loggingOf reader usual.logging) usual.logging
  return ⟨features, logging⟩

/-- The settings that sources describe, each laid over those before it. -/
def ofSources (compiled : FeatureSet) (sources : List Entries) : Except LoadFault Settings :=
  match ofEntries reader compiled
      (sources.foldl (fun entries source => reader.layer source entries) []) with
  | .ok settings => .ok settings
  | .error fault => .error (.decode fault)

structure Surroundings where
  tree : FileTree
  environment : List (String × String)

/-- What the names of the variables begin with that hold settings. -/
def variableFront : String := "RADIO_MAC"

/-- What stands between the parts of the names of variables. -/
def variableSeparator : String := "__"

def fromVariables (surroundings : Surroundings) : Entries :=
  reader.environment variableFront variableSeparator surroundings.environment

/-- The names of the files from which the settings of a named environment are loaded. -/
def fileNames (name : String) : List String := ["config/default", "config/" ++ name]

/-- Loads the settings of a named environment: the common file, then that of the environment,
then the variables. Both files may be missing. -/
def load (compiled : FeatureSet) (surroundings : Surroundings) (name : String) :
    Except LoadFault Settings := do
  let files ← (fileNames name).mapM fun file =>
    (reader.file surroundings.tree file false).mapError .build
  ofSources reader compiled (files ++ [fromVariables reader surroundings])

/-- Loads settings from the file at a path and from the variables. -/
def fromFile (compiled : FeatureSet) (surroundings : Surroundings) (path : String) :
    Except LoadFault Settings := do
  let entries ← (reader.file surroundings.tree path true).mapError (.read path)
  ofSources reader compiled [entries, fromVariables reader surroundings]

end Settings

end MacDispatch
