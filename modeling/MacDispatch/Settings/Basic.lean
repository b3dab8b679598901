import MacDispatch.Radio.Encoding

/-! # Settings

What can be configured: the switches of the optional features, and how the log is written. -/

namespace MacDispatch

open Text (Outline)

structure Logging where
  /-- Directives that choose the events to be written. -/
  level : String := "info"
  /-- `json` for one object a line, anything else for text. -/
  format : String := "pretty"
deriving DecidableEq, Repr

structure Settings where
  features : Switches
  logging : Logging := {}
deriving DecidableEq, Repr

namespace Logging

def json (logging : Logging) : Json :=
  .object [("level", .string logging.level), ("format", .string logging.format)]

structure Given where
  level : Option String := none
  format : Option String := none

def complete (p : Given) : Logging :=
  let usual : Logging := {}
  ⟨p.level.getD usual.level, p.format.getD usual.format⟩

/-- Logging settings as a record; those that are not given are as usual. -/
def record : Decoder.Record Given Logging where
  name := "LoggingConfig"
  fields := [.of "level" Decoder.string Given.level fun t p => { p with level := some t },
    .of "format" Decoder.string Given.format fun t p => { p with format := some t }]
  empty := {}
  finish _ p := .ok (complete p)

def decoder : Decoder Logging := record.decode

def outline (logging : Logging) : Outline :=
  .record "LoggingConfig" [("level", .string logging.level), ("format", .string logging.format)]

end Logging

namespace Settings

/-- The settings of a build when nothing is configured. -/
def default (compiled : FeatureSet) : Settings where
  features := .default compiled

def json (settings : Settings) : Json :=
  .object [("features", settings.features.json), ("logging", settings.logging.json)]

structure Given where
  features : Option Switches := none
  logging : Option Logging := none

def complete (compiled : FeatureSet) (p : Given) : Settings :=
  ⟨p.features.getD (.default compiled), p.logging.getD {}⟩

/-- Settings as a record; what is not given is as the build has it. -/
def record (compiled : FeatureSet) : Decoder.Record Given Settings where
  name := "AppConfig"
  fields := [
    .of "features" (Switches.decoder compiled) Given.features fun s p =>
      { p with features := some s },
    .of "logging" Logging.decoder Given.logging fun l p => { p with logging := some l }]
  empty := {}
  finish _ p := .ok (complete compiled p)

def decoder (compiled : FeatureSet) : Decoder Settings := (record compiled).decode

def outline (settings : Settings) : Outline :=
  .record "AppConfig"
    [("features", settings.features.outline), ("logging", settings.logging.outline)]

/-- The optional features that are on under these settings. -/
def featureSet (settings : Settings) (compiled : FeatureSet) : Traced FeatureSet :=
  settings.features.resolve compiled

end Settings

end MacDispatch
