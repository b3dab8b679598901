import MacDispatch.Proofs.Deeds
import MacDispatch.Rehearsal.Probe

/-! # Sessions

In a session one thing after another is done with a bench: signals are fired, probes report what
they deferred, and the log is drained, in any order. Hooks whose states are all alike cannot
change, so the engine of a bench stays what it was. -/

namespace MacDispatch

open List

/-! ## Hooks without state -/

section Stateless

variable {σ : Type} [Subsingleton σ]

theorem Candidate.answered_of_subsingleton {c : Channel} (payload : c.Payload)
    (candidate : Candidate σ c) : candidate.answered payload = candidate := by
  obtain ⟨feature, state, act⟩ := candidate
  exact congrArg (fun s => Candidate.mk feature ⟨s, act⟩) (Subsingleton.elim _ _)

/-- Without states, a dispatch leaves everything as it was. -/
theorem Registry.snd_fire_of_subsingleton (registry : Registry σ) (signal : Signal) :
    (registry.fire signal).2 = registry := by
  have htable : (registry.fire signal).2.table = registry.table := by
    funext c
    by_cases hc : signal.channel = c
    · subst hc
      rw [table_fire_self, map_congr_left fun candidate _ =>
        candidate.answered_of_subsingleton signal.payload, map_id', asked_append_spared]
    · exact table_fire_of_ne _ _ hc
  calc
    (registry.fire signal).2 = ⟨registry.features, (registry.fire signal).2.table⟩ := rfl
    _ = registry := by rw [htable]

theorem Registry.snd_run_of_subsingleton (registry : Registry σ) (signals : List Signal) :
    (registry.run signals).2 = registry := by
  refine run_induction (P := (· = registry)) ?_ rfl signals
  intro later signal h
  rw [snd_fire_of_subsingleton, h]

/-- Without states, every dispatch of a run is one by the same registry. -/
theorem Registry.fst_run_of_subsingleton (registry : Registry σ) (signals : List Signal) :
    (registry.run signals).1 = signals.map fun signal => (registry.fire signal).1 := by
  induction signals with
  | nil => rfl
  | cons signal rest ih => rw [run_cons, snd_fire_of_subsingleton, ih, map_cons]

end Stateless

namespace ProbeBench

/-! ## Sessions -/

inductive Act
  | fire (signal : Signal)
  | resume (feature : Feature) (frame : Frame)
  | drain

/-- What is seen of an act: the dispatch made, whether an attempt was reported, or the calls taken
out of the log. -/
inductive Reply
  | fired (firing : Firing)
  | resumed (reported : Bool)
  | drained (calls : List ProbeCall)

/-- Does something with a bench: what is seen of it, and the bench afterwards. -/
def act (bench : ProbeBench) : Act → Acted (Reply × ProbeBench)
  | .fire signal => do
    let (firing, bench) ← bench.dispatch signal
    return (.fired firing, bench)
  | .resume feature frame => do
    let (reported, bench) ← bench.resume feature frame
    return (.resumed reported, bench)
  | .drain => return (.drained bench.drain.1, bench.drain.2)

/-- The bench once something was done with it. -/
def perform (bench : ProbeBench) (act : Act) : ProbeBench := (bench.act act).value.2

def performAll (bench : ProbeBench) (acts : List Act) : ProbeBench := acts.foldl perform bench

theorem performAll_concat (bench : ProbeBench) (acts : List Act) (act : Act) :
    bench.performAll (acts ++ [act]) = (bench.performAll acts).perform act := by
  rw [performAll, foldl_append]
  rfl

/-- What is seen in the course of a session. -/
def replies (bench : ProbeBench) : List Act → List Reply
  | [] => []
  | act :: rest => (bench.act act).value.1 :: (bench.perform act).replies rest

/-- What is done in the course of a session. -/
def deeds (bench : ProbeBench) : List Act → List Deed
  | [] => []
  | act :: rest => (bench.act act).deeds ++ (bench.perform act).deeds rest

/-! ## What acts change -/

section Acts

variable (bench : ProbeBench) (signal : Signal) (feature : Feature) (frame : Frame)

theorem perform_fire : bench.perform (.fire signal) = (bench.dispatch signal).value.2 := rfl

theorem perform_resume : bench.perform (.resume feature frame) =
    { bench with deferrals := bench.deferrals.release feature } := by
  have hresume : bench.perform (.resume feature frame) = (bench.resume feature frame).value.2 :=
    rfl
  rw [hresume, resume]
  cases bench.deferrals.held feature <;> rfl

/-- The engine of a bench does not change. -/
theorem engine_perform (act : Act) : (bench.perform act).engine = bench.engine := by
  cases act with
  | fire signal => exact bench.engine.snd_fire_of_subsingleton signal
  | resume feature frame => rw [perform_resume]
  | drain => rfl

end Acts

theorem engine_performAll (bench : ProbeBench) (acts : List Act) :
    (bench.performAll acts).engine = bench.engine := by
  induction acts generalizing bench with
  | nil => rfl
  | cons act rest ih => exact (ih (bench.perform act)).trans (bench.engine_perform act)

/-- What a signal adds to the log are the records of its calls, if the hooks make them. -/
theorem log_perform_fire {bench : ProbeBench} (h : bench.engine.Recording) (signal : Signal) :
    (bench.perform (.fire signal)).log =
      bench.log ++ (bench.engine.fire signal).1.calls.map Call.record := by
  rw [perform_fire, Bench.log_dispatch, h.recorded_dispatch]

/-- What a signal adds to the continuations is what its hooks keep. -/
theorem deferrals_perform_fire (bench : ProbeBench) (signal : Signal) :
    (bench.perform (.fire signal)).deferrals =
      ((bench.engine.dispatch signal).deeds.filterMap Deed.kept?).foldl
        (fun held kept => held.keep kept.1 kept.2) bench.deferrals := by
  rw [perform_fire, Bench.value_dispatch, Memory.performAll_eq]

end ProbeBench

end MacDispatch
