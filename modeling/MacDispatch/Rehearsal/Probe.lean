import MacDispatch.Dispatch.Assembly
import MacDispatch.Rehearsal.Bench

/-! # Probes

A probe stands in for a feature: it takes part in the feature's channels, records every call,
and says yes unless it is the one that vetoes. Even that one grants what it asked for itself, and
termination that does not abort an operation in progress. When it refuses a transmission, it keeps
the continuation of the attempt and reports the attempt later. -/

namespace MacDispatch

/-- A probe, by the feature for which it stands. -/
structure Probe where
  feature : Feature
  veto : Bool
deriving DecidableEq, Repr

namespace Probe

private def note (message : String) (fields : List (String × FieldValue)) : Event :=
  ⟨.info, "radio_mac::probe", message, fields⟩

def answered (feature : Feature) (channel : Channel) (verdict : Bool) : Event :=
  note "Probe answered" [("feature", .text feature.name), ("channel", .text channel.name),
    ("verdict", .flag verdict)]

def notified (feature : Feature) (channel : Channel) : Event :=
  note "Probe notified" [("feature", .text feature.name), ("channel", .text channel.name)]

/-- Told of a deferred transmission before its continuation is called. -/
def reporting (feature : Feature) : Event :=
  note "Reporting deferred transmission" [("feature", .text feature.name)]

/-- Gives a verdict, and records that it was given on the channel. -/
def recordVerdict (probe : Probe) (channel : Channel) (verdict : Bool) : Acted Bool := do
  Acted.perform (.tell (answered probe.feature channel verdict))
  Acted.perform (.record ⟨channel, probe.feature, some verdict⟩)
  return verdict

/-- Records that something was told on the channel. -/
def observe (probe : Probe) (channel : Channel) : Acted Unit := do
  Acted.perform (.tell (notified probe.feature channel))
  Acted.perform (.record ⟨channel, probe.feature, none⟩)

/-- The answer where nothing is granted in spite of a veto. -/
def answer (probe : Probe) (channel : Channel) : Acted Bool :=
  probe.recordVerdict channel (!probe.veto)

/-- Own requests are granted, and so are levels that abort nothing in progress. -/
def terminate (probe : Probe) (termination : Termination) : Acted Bool :=
  probe.recordVerdict .terminate
    (termination.originator == probe.feature.originator ||
      !termination.level.abortsInProgress || !probe.veto)

/-- The answer to an attempt, whose continuation is kept when it is refused. -/
def defer (probe : Probe) (attempt : Attempt) : Acted Bool := do
  let verdict ← probe.answer .preTransmission
  if !verdict then Acted.perform (.keep probe.feature attempt.notify)
  return verdict

/-- The hook that answers by `respond`. What it remembers is what its deeds leave behind, so it
needs no state of its own. -/
def stateless {c : Channel} (respond : c.Payload → Acted c.Answer) : Hook Unit c where
  state := ()
  act payload _ := do return (← respond payload, ())

def hook (probe : Probe) : (c : Channel) → Hook Unit c
  | .terminate => stateless fun termination => probe.terminate termination
  | .preTransmission => stateless fun attempt => probe.defer attempt
  | .transmissionReady => stateless fun _ => probe.observe .transmissionReady
  | .transmitted => stateless fun _ => probe.observe .transmitted
  | .txFailed => stateless fun _ => probe.answer .txFailed
  | .txStarted => stateless fun _ => probe.answer .txStarted
  | .rxStarted => stateless fun _ => probe.observe .rxStarted
  | .rxAckStarted => stateless fun _ => probe.observe .rxAckStarted
  | .prioChanged => stateless fun _ => probe.observe .prioChanged

/-- The probe for a feature, given the feature that vetoes. -/
def ofVeto (veto : Option Feature) (feature : Feature) : Probe := ⟨feature, veto == some feature⟩

def module (veto : Option Feature) (feature : Feature) : FeatureModule Unit where
  feature := feature
  hooks := feature.channels.map fun c => ⟨c, (ofVeto veto feature).hook c⟩

end Probe

abbrev ProbeBench := Bench Unit

namespace ProbeBench

def assembly (features : FeatureSet) (veto : Option Feature) :
    Traced (Except AssemblyFault (Assembly Unit)) :=
  (Assembly.empty features).addAll (Feature.all.map (Probe.module veto))

/-- An engine of one probe for each feature, one of which may veto. -/
def assemble (features : FeatureSet) (veto : Option Feature) :
    Traced (Except AssemblyFault ProbeBench) := do
  match ← assembly features veto with
  | .error fault => pure (.error fault)
  | .ok assembly =>
    match ← assembly.build with
    | .error fault => pure (.error fault)
    | .ok engine => pure (.ok { engine })

/-- Has a probe report the transmission that it deferred: whether there was one. -/
def resume (bench : ProbeBench) (feature : Feature) (frame : Frame) : Acted (Bool × ProbeBench) :=
  let released : ProbeBench := { bench with deferrals := bench.deferrals.release feature }
  match bench.deferrals.held feature with
  | some callback => do
    Acted.perform (.tell (Probe.reporting feature))
    Acted.perform (.notify ⟨callback, frame, .busyChannel⟩)
    return (true, released)
  | none => return (false, released)

/-- Has every probe in turn report what it deferred: the features that had deferred something. -/
def resumeAll (bench : ProbeBench) (frame : Frame) : Acted (List Feature × ProbeBench) :=
  go Feature.all bench
where
  go : List Feature → ProbeBench → Acted (List Feature × ProbeBench)
    | [], bench => return ([], bench)
    | feature :: rest, bench => do
      let (reported, bench) ← bench.resume feature frame
      let (features, bench) ← go rest bench
      return (if reported then feature :: features else features, bench)

end ProbeBench

end MacDispatch
