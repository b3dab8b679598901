import MacDispatch.Proofs.Reference

/-! # Records

Main statement: the log of a bench of probes loses nothing and invents nothing. Whatever was
drained in a session and what is left in the log are, in order, the calls of its dispatches, and
each of them is recorded as it was: made to a feature that is on and takes part in the channel,
with a verdict where one is asked for, and with a refusal only at the end of a refused dispatch. -/

namespace MacDispatch

open List

namespace Policy.Answer

theorem isSome_verdict?_iff {policy : Policy} (answer : policy.Answer) :
    answer.verdict?.isSome ↔ policy = .consent := by
  cases policy with
  | consent => exact iff_of_true rfl rfl
  | broadcast => simp [verdict?]

end Policy.Answer

namespace ProbeBench

/-! ## What is seen in a session -/

def Act.signal? : Act → Option Signal
  | .fire signal => some signal
  | _ => none

def Reply.firings : Reply → List Firing
  | .fired firing => [firing]
  | _ => []

def Reply.calls : Reply → List ProbeCall
  | .drained calls => calls
  | _ => []

def made (firings : List Firing) : List ProbeCall :=
  firings.flatMap fun firing => firing.calls.map Call.record

/-- The dispatches of a session are those of its signals on the engine. -/
theorem flatMap_firings_replies (bench : ProbeBench) (acts : List Act) :
    (bench.replies acts).flatMap Reply.firings =
      (bench.engine.run (acts.filterMap Act.signal?)).1 := by
  induction acts generalizing bench with
  | nil => rfl
  | cons act rest ih =>
    rw [replies, flatMap_cons, ih]
    cases act with
    | fire signal => rfl
    | resume feature frame =>
      rw [engine_perform]
      rfl
    | drain => rfl

/-! ## Conservation -/

/-- An act moves calls out of the log or adds those of its dispatch. -/
theorem calls_reply_append_log {bench : ProbeBench} (h : bench.engine.Recording) (act : Act) :
    (bench.act act).value.1.calls ++ (bench.perform act).log =
      bench.log ++ made (bench.act act).value.1.firings := by
  cases act with
  | fire signal =>
    have hmade : made (bench.act (.fire signal)).value.1.firings =
        (bench.engine.fire signal).1.calls.map Call.record := flatMap_singleton _ _
    rw [log_perform_fire h, hmade]
    rfl
  | resume feature frame =>
    rw [perform_resume]
    exact (append_nil _).symm
  | drain => rfl

/-- What was drained and what is left are what was there and what was recorded. -/
theorem flatMap_calls_replies_append_log {bench : ProbeBench} (h : bench.engine.Recording)
    (acts : List Act) :
    (bench.replies acts).flatMap Reply.calls ++ (bench.performAll acts).log =
      bench.log ++ made ((bench.replies acts).flatMap Reply.firings) := by
  induction acts generalizing bench with
  | nil => exact (append_nil _).symm
  | cons act rest ih =>
    have hrest := ih (h := (bench.engine_perform act).symm ▸ h)
    have hmade : made ((bench.replies (act :: rest)).flatMap Reply.firings) =
        made (bench.act act).value.1.firings ++
          made (((bench.perform act).replies rest).flatMap Reply.firings) := by
      rw [replies, flatMap_cons, made, flatMap_append, made, made]
    calc
      (bench.replies (act :: rest)).flatMap Reply.calls ++ (bench.performAll (act :: rest)).log
        = (bench.act act).value.1.calls ++
            (((bench.perform act).replies rest).flatMap Reply.calls ++
              ((bench.perform act).performAll rest).log) := append_assoc _ _ _
      _ = (bench.act act).value.1.calls ++ (bench.perform act).log ++
            made (((bench.perform act).replies rest).flatMap Reply.firings) := by
        rw [hrest, append_assoc]
      _ = bench.log ++ made ((bench.replies (act :: rest)).flatMap Reply.firings) := by
        rw [calls_reply_append_log h, append_assoc, hmade]

/-! ## The shape of what is recorded -/

/-- The calls that a dispatch adds to the log. -/
structure SegmentSpec (features : FeatureSet) (firing : Firing) (calls : List ProbeCall) :
    Prop where
  made_eq : calls = firing.calls.map Call.record
  recorded : ∀ call ∈ calls, call.channel = firing.channel ∧
    call.feature.isEnabledIn features = true ∧
      call.feature.participatesIn firing.channel = true ∧
        (call.verdict?.isSome ↔ firing.channel.policy = .consent)
  refused_iff : (∃ call ∈ calls, call.verdict? = some false) ↔ firing.verdict? = some false
  /-- A refusal comes once, at the end. -/
  refused_last : firing.verdict? = some false →
    ∃ front last, calls = front ++ [last] ∧ last.verdict? = some false ∧
      ∀ call ∈ front, call.verdict? = some true

section Shape

variable {features : FeatureSet} {veto : Option Feature} {signal : Signal}

/-- Whoever is recorded stands in the table of features and channels. -/
theorem recorded_of_mem_calls {call : ProbeCall}
    (hcall : call ∈ ((Probe.engine features veto).fire signal).1.calls.map Call.record) :
    call.channel = signal.channel ∧ call.feature ∈ Feature.candidates signal.channel features ∧
      (call.verdict?.isSome ↔ signal.channel.policy = .consent) := by
  rw [Registry.calls_fire] at hcall
  obtain ⟨_, hmade, rfl⟩ := mem_map.mp hcall
  obtain ⟨member, hasked, rfl⟩ := mem_map.mp hmade
  obtain ⟨feature, hlisted, rfl⟩ := mem_map.mp (mem_of_mem_take hasked)
  exact ⟨rfl, hlisted, Policy.Answer.isSome_verdict?_iff _⟩

theorem exists_refusal_recorded_iff (engine : Registry Unit) (signal : Signal) :
    (∃ call ∈ (engine.fire signal).1.calls.map Call.record, call.verdict? = some false) ↔
      (engine.fire signal).1.verdict? = some false := by
  rcases engine.refused_cases signal with ⟨hno, last, front, hcalls, -, hlast⟩ | ⟨hyes, hall⟩
  · refine iff_of_true ⟨last.record, mem_map_of_mem ?_, ?_⟩ hno
    · simp [hcalls]
    · exact last.answer.refuses_iff.mp hlast
  · refine iff_of_false ?_ hyes
    rintro ⟨call, hmem, hcall⟩
    obtain ⟨made, hmade, rfl⟩ := mem_map.mp hmem
    exact Bool.false_ne_true ((hall made hmade).symm.trans (made.answer.refuses_iff.mpr hcall))

/-- Of a refused dispatch, the refusal is recorded last and everybody else agreed. -/
theorem exists_records_eq_of_refused {engine : Registry Unit}
    (hno : (engine.fire signal).1.verdict? = some false) :
    ∃ front last, (engine.fire signal).1.calls.map Call.record = front ++ [last] ∧
      last.verdict? = some false ∧ ∀ call ∈ front, call.verdict? = some true := by
  rcases engine.refused_cases signal with ⟨-, last, front, hcalls, hfront, hlast⟩ | ⟨hyes, -⟩
  · have hp : signal.channel.policy = .consent := by
      cases hp : signal.channel.policy with
      | consent => rfl
      | broadcast => simp [Registry.verdict?_fire_of_broadcast _ _ hp] at hno
    refine ⟨front.map Call.record, last.record, by rw [hcalls, map_append, map_singleton],
      last.answer.refuses_iff.mp hlast, forall_mem_map.mpr fun call hmem => ?_⟩
    exact (Policy.Answer.verdict?_of_consent hp call.answer).trans
      (congrArg (fun refuses => some !refuses) (hfront call hmem))
  · exact absurd hno hyes

theorem segmentSpec_fire (features : FeatureSet) (veto : Option Feature) (signal : Signal) :
    SegmentSpec features ((Probe.engine features veto).fire signal).1
      (((Probe.engine features veto).fire signal).1.calls.map Call.record) where
  made_eq := rfl
  recorded call hcall := by
    obtain ⟨hchannel, hlisted, hverdict⟩ := recorded_of_mem_calls hcall
    obtain ⟨hon, htakes⟩ := Feature.mem_candidates.mp hlisted
    exact ⟨hchannel, hon, decide_eq_true htakes, hverdict⟩
  refused_iff := exists_refusal_recorded_iff _ signal
  refused_last := exists_records_eq_of_refused

end Shape

/-! ## Sessions -/

/-- What is in the log at the end of a session, and what was drained from it. -/
structure LogSpec (features : FeatureSet) (bench : ProbeBench) (acts : List Act) : Prop where
  fired : ((bench.replies acts).flatMap Reply.firings).map Firing.signal =
    acts.filterMap Act.signal?
  /-- What was drained and what is left are the calls made, in order. -/
  conserved : (bench.replies acts).flatMap Reply.calls ++ (bench.performAll acts).log =
    made ((bench.replies acts).flatMap Reply.firings)
  /-- Whatever was done before, a signal adds the calls of its dispatch to the log. -/
  segment : ∀ before signal after, acts = before ++ .fire signal :: after → ∃ firing calls,
    ((bench.performAll before).act (.fire signal)).value.1 = .fired firing ∧
      firing.signal = signal ∧
      (bench.performAll (before ++ [.fire signal])).log =
        (bench.performAll before).log ++ calls ∧
      SegmentSpec features firing calls

/-- However signals, reports and drainings follow each other, the log of a bench of probes loses
nothing and invents nothing. -/
theorem log_conserved (features : FeatureSet) (veto : Option Feature) :
    ∃ bench, (assemble features veto).value = .ok bench ∧
      ∀ acts, LogSpec features bench acts := by
  have hrecording := Probe.recording_engine features veto
  refine ⟨_, value_assemble features veto, fun acts => ⟨?_, ?_, ?_⟩⟩
  · rw [flatMap_firings_replies, Registry.map_signal_run]
  · exact flatMap_calls_replies_append_log hrecording acts
  · rintro before signal after -
    have hengine := engine_performAll { engine := Probe.engine features veto } before
    refine ⟨((Probe.engine features veto).fire signal).1, _, ?_, rfl, ?_,
      segmentSpec_fire features veto signal⟩
    · have hfired := congrArg (fun engine => Reply.fired (engine.fire signal).1) hengine
      exact hfired
    · rw [performAll_concat, log_perform_fire (hengine ▸ hrecording), hengine]

end ProbeBench

end MacDispatch
