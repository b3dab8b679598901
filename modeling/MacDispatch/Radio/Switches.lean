import MacDispatch.Log.Event
import MacDispatch.Radio.Feature

/-! # Switches

What a configuration asks for, feature by feature. A switch has an effect only for a feature
that the build contains: resolving switches masks them, and warns of every one that is lost. -/

namespace MacDispatch

/-- The switches of the optional features. -/
structure Switches where
  csmaCa : Bool
  ackTimeout : Bool
  delayedTrx : Bool
  ifs : Bool
deriving DecidableEq, Repr

namespace Switches

/-- The switches of a build when nothing is asked for: every feature that it contains is on. -/
def default (compiled : FeatureSet) : Switches :=
  ⟨compiled.csmaCa, compiled.ackTimeout, compiled.delayedTrx, compiled.ifs⟩

/-- The features that are switched on, whatever the build contains. -/
def asked (switches : Switches) : FeatureSet :=
  ⟨switches.csmaCa, switches.ackTimeout, switches.delayedTrx, switches.ifs⟩

/-- The features that are switched on and contained in the build. -/
def masked (switches : Switches) (compiled : FeatureSet) : FeatureSet where
  csmaCa := switches.csmaCa && compiled.csmaCa
  ackTimeout := switches.ackTimeout && compiled.ackTimeout
  delayedTrx := switches.delayedTrx && compiled.delayedTrx
  ifs := switches.ifs && compiled.ifs

/-- The features that are switched on and missing from the build, in order of rank. -/
def ineffective (switches : Switches) (compiled : FeatureSet) : List Feature :=
  Feature.all.filter fun feature =>
    feature.isOptional && feature.isEnabledIn switches.asked && !feature.isEnabledIn compiled

def notCompiled (feature : Feature) : Event where
  level := .warn
  target := "radio_mac_core::config::features"
  message := "Feature enabled in configuration but not compiled in, leaving it disabled"
  fields := [("feature", .text feature.name)]

/-- Masks the switches by what the build contains, and warns of those that are lost. -/
def resolve (switches : Switches) (compiled : FeatureSet) : Traced FeatureSet where
  value := switches.masked compiled
  events := (switches.ineffective compiled).map notCompiled

end Switches

end MacDispatch
