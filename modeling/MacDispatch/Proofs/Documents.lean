import MacDispatch.Cli.Execution
import MacDispatch.Json.Reader
import MacDispatch.Proofs.Reference

/-! # Documents

Main statement: in the JSON format, the commands that list channels, show the settings and
rehearse a transmission succeed, and what they write is one document. The exception is a rehearsal
with a veto of a feature that is off: the warning about it comes before the document, and all of it
together is no JSON. -/

namespace MacDispatch

theorem Output.toList_warning (message : String) :
    (Output.warning message).toList = '⚠' :: ' ' :: (message.toList ++ ['\n']) := by
  simp [Output.warning, Output.line]

namespace Cli

/-- All that is written is one document and the end of its last line. -/
def Execution.Writes (execution : Execution) (document : Json) : Prop :=
  execution.failure? = none ∧ execution.output = document.pretty ++ "\n"

/-- The document that lists the channels of a bench, or only those with candidates. -/
def channelsDocument (bench : ProbeBench) (nonEmpty : Bool) : Json :=
  .array ((bench.engine.layout.filter fun layout =>
    !nonEmpty || !layout.candidates.isEmpty).map ChannelLayout.json)

/-- The document that lists the rows of a rehearsal on a bench. -/
def rehearsalDocument (bench : ProbeBench) (plan : RehearsalPlan) : Json :=
  .array ((Replay.run bench ⟨sampleFrame, plan.granted, plan.error⟩).value.rows.map
    ReplayRow.json)

namespace Workplace

variable {place : Workplace}

def features (place : Workplace) : FeatureSet := (place.settings.featureSet place.compiled).value

/-! ## What is written -/

theorem value_listChannels (h : place.format = .json) (nonEmpty : Bool) :
    (place.listChannels nonEmpty).value = .ofOutput (Output.line (channelsDocument
      { engine := Probe.engine place.features none } nonEmpty).pretty) := by
  simp only [listChannels, Traced.value_bind, ProbeBench.value_assemble, h]
  rfl

theorem value_displaySettings (h : place.format = .json) :
    place.displaySettings.value = .ofOutput (Output.line (EffectiveSettings.json
      ⟨place.compiled, place.features, place.settings.logging⟩).pretty) := by
  simp only [displaySettings, Traced.value_bind, h]
  rfl

theorem value_rehearse (h : place.format = .json) (plan : RehearsalPlan) :
    (place.rehearse plan).value = .ofOutput (vetoWarning place.features plan.veto? ++
      Output.line (rehearsalDocument
        { engine := Probe.engine place.features plan.veto? } plan).pretty) := by
  have htable : (OutputFormat.json == OutputFormat.table) = false := rfl
  simp only [rehearse, Traced.value_bind, ProbeBench.value_assemble, h, htable, Bool.false_and,
    Bool.false_eq_true, if_false, String.append_empty]
  rfl

theorem vetoWarning_eq_empty {features : FeatureSet} {veto? : Option Feature}
    (h : ∀ v, veto? = some v → v.isEnabledIn features = true) :
    vetoWarning features veto? = "" := by
  cases veto? with
  | none => rfl
  | some v => exact if_pos (h v rfl)

theorem vetoWarning_of_off {features : FeatureSet} {v : Feature}
    (h : v.isEnabledIn features = false) :
    vetoWarning features (some v) = Output.warning
      ("'" ++ v.name ++ "' is disabled, its veto will never be consulted") :=
  if_neg (by simp [h])

/-- A warning before anything else keeps it from being JSON. -/
theorem ofText?_warning_append (message text : String) :
    Json.ofText? (Output.warning message ++ text) = none := by
  have htext : (Output.warning message ++ text).toList =
      '⚠' :: (' ' :: (message.toList ++ ['\n']) ++ text.toList) := by
    rw [String.toList_append, Output.toList_warning, List.cons_append]
  exact Json.ofText?_eq_none_of_not_ascii htext (by decide)

theorem warning_append_ne (message text : String) : Output.warning message ++ text ≠ text := by
  intro he
  have hlength := congrArg String.length he
  simp [Output.warning, Output.line] at hlength

/-! ## Documents and warnings -/

/-- What the commands write in the JSON format. -/
structure DocumentSpec (place : Workplace) : Prop where
  channels : ∀ nonEmpty, ∃ bench, (ProbeBench.assemble place.features none).value = .ok bench ∧
    (place.execute (.channels nonEmpty)).value.Writes (channelsDocument bench nonEmpty)
  settings : (place.execute (.settings .display)).value.Writes
    (EffectiveSettings.json ⟨place.compiled, place.features, place.settings.logging⟩)
  rehearsed : ∀ plan, (∀ v, plan.veto? = some v → v.isEnabledIn place.features = true) →
    ∃ bench, (ProbeBench.assemble place.features plan.veto?).value = .ok bench ∧
      (place.execute (.rehearse plan)).value.Writes (rehearsalDocument bench plan)
  /-- The warning about a veto that is off is written, too. -/
  warned : ∀ plan v, plan.veto? = some v → v.isEnabledIn place.features = false →
    ∃ bench, (ProbeBench.assemble place.features plan.veto?).value = .ok bench ∧
      (place.execute (.rehearse plan)).value.failure? = none ∧
      (place.execute (.rehearse plan)).value.output =
        Output.warning ("'" ++ v.name ++ "' is disabled, its veto will never be consulted") ++
          ((rehearsalDocument bench plan).pretty ++ "\n") ∧
      Json.ofText? (place.execute (.rehearse plan)).value.output = none

/-- In the JSON format, what is written is one document, except for the warning about a veto that
is off. -/
theorem documents_unless_warned (compiled : FeatureSet) (settings : Settings) (tree : FileTree) :
    DocumentSpec { compiled, settings, format := .json, tree } := by
  refine ⟨fun nonEmpty => ⟨_, ProbeBench.value_assemble _ _, ?_⟩, ?_, fun plan hon =>
    ⟨_, ProbeBench.value_assemble _ _, ?_⟩, fun plan v hveto hoff =>
    ⟨_, ProbeBench.value_assemble _ _, ?_⟩⟩
  · rw [execute, value_listChannels rfl]
    exact ⟨rfl, rfl⟩
  · rw [execute, value_displaySettings rfl]
    exact ⟨rfl, rfl⟩
  · rw [execute, value_rehearse rfl, vetoWarning_eq_empty hon]
    exact ⟨rfl, String.empty_append⟩
  · rw [execute, value_rehearse rfl, hveto, vetoWarning_of_off hoff]
    exact ⟨rfl, rfl, ofText?_warning_append _ _⟩

/-- A place where one of the features is switched off. -/
def switchedOff : Workplace where
  compiled := .all
  settings := { features := ⟨false, true, true, true⟩ }
  format := .json
  tree := { files := [] }

/-- The rehearsal succeeds, and writes more than its document. -/
theorem not_writes_rehearsal_switchedOff :
    (switchedOff.execute (.rehearse { veto? := some .csmaCa })).value.failure? = none ∧
      (∀ bench, (ProbeBench.assemble switchedOff.features (some .csmaCa)).value = .ok bench →
        ¬(switchedOff.execute (.rehearse { veto? := some .csmaCa })).value.Writes
          (rehearsalDocument bench { veto? := some .csmaCa })) ∧
      Json.ofText?
        (switchedOff.execute (.rehearse { veto? := some .csmaCa })).value.output = none := by
  have hoff : Feature.isEnabledIn .csmaCa switchedOff.features = false := by decide
  rw [execute, value_rehearse rfl, vetoWarning_of_off hoff]
  refine ⟨rfl, fun bench hbench hwrites => ?_, ofText?_warning_append _ _⟩
  rw [ProbeBench.value_assemble] at hbench
  cases hbench
  exact warning_append_ne _ _ hwrites.2

end Workplace

end Cli

end MacDispatch
