import MacDispatch.Settings.Basic

/-! # Settings as text

Settings as a settings file holds them, and settings as they take effect in a build. -/

namespace MacDispatch

namespace Settings

private def fileSection (name : String) (entries : List (String × String)) : String :=
  let lines := entries.map fun (key, value) => key ++ " = " ++ value ++ "\n"
  "[" ++ name ++ "]\n" ++ String.join lines

private def word (b : Bool) : String := if b then "true" else "false"

private def plainText (text : String) : String := "\"" ++ text ++ "\""

/-- The file that holds the usual settings of a build. -/
def usualFile (compiled : FeatureSet) : String :=
  let usual := default compiled
  fileSection "features"
      [("csma_ca", word usual.features.csmaCa), ("ack_timeout", word usual.features.ackTimeout),
        ("delayed_trx", word usual.features.delayedTrx), ("ifs", word usual.features.ifs)]
    ++ "\n"
    ++ fileSection "logging"
      [("level", plainText usual.logging.level), ("format", plainText usual.logging.format)]

end Settings

structure EffectiveSettings where
  compiled : FeatureSet
  enabled : FeatureSet
  logging : Logging
deriving DecidableEq, Repr

namespace EffectiveSettings

def json (settings : EffectiveSettings) : Json :=
  .object [("compiled", settings.compiled.json), ("enabled", settings.enabled.json),
    ("logging", settings.logging.json)]

def outline (settings : EffectiveSettings) : Text.Outline :=
  .record "ResolvedConfig"
    [("compiled", settings.compiled.outline), ("enabled", settings.enabled.outline),
      ("logging", settings.logging.outline)]

end EffectiveSettings

end MacDispatch
