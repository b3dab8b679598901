import MacDispatch.Rehearsal.Bench

/-! # Replays

A replay drives one attempt to send a frame through an engine, and follows the path on which the
answers lead it: a transmission that is refused, before or on the air, is reported as failed; one
that is not goes on to its acknowledgement, if it asked for one. Each dispatch is a line, and who
was called in it is read off the log, which is emptied for the next. -/

namespace MacDispatch

structure ReplayRow where
  step : Nat
  channel : Channel
  verdict? : Option Bool
  invoked : List Feature
deriving DecidableEq, Repr

namespace Replay

variable {σ : Type}

structure Plan where
  frame : Frame
  granted : Priority
  error : TxError

/-- How far a replay has come: the bench, the dispatches so far and their lines. -/
structure Stage (σ : Type) where
  bench : Bench σ
  firings : List Firing := []
  rows : List ReplayRow := []

/-- A part of a replay. -/
abbrev Run (σ : Type) := StateT (Stage σ) Acted

/-- Dispatches a signal and adds its line: whether it was not refused. -/
def step (channel : Channel) (signal : Signal) : Run σ Bool := fun stage => do
  let (firing, bench) ← stage.bench.dispatch signal
  let (calls, bench) := bench.drain
  let row : ReplayRow :=
    ⟨stage.rows.length + 1, channel, firing.verdict?, calls.map ProbeCall.feature⟩
  return (firing.admitted,
    { bench, firings := stage.firings ++ [firing], rows := stage.rows ++ [row] })

/-- What follows once the frame is on the air. -/
def onAir (plan : Plan) : Run σ Unit := do
  let _ ← step .transmitted ⟨.transmitted, plan.frame⟩
  if plan.frame.ackRequested then
    let _ ← step .rxAckStarted ⟨.rxAckStarted, ()⟩
  let _ ← step .rxStarted ⟨.rxStarted, plan.frame⟩

/-- What follows a refusal. -/
def failed (plan : Plan) : Run σ Unit := do
  let _ ← step .txFailed ⟨.txFailed, (⟨plan.frame, plan.error⟩ : FailedAttempt)⟩

/-- How an attempt begins: whether it is admitted. -/
def beginning (plan : Plan) : Run σ Bool := do
  let _ ← step .prioChanged ⟨.prioChanged, (⟨.idle, plan.granted⟩ : PriorityChange)⟩
  let admitted ← step .preTransmission
    ⟨.preTransmission, (⟨plan.frame, true, .report⟩ : Attempt)⟩
  let _ ← step .transmissionReady
    ⟨.transmissionReady, (⟨plan.frame, admitted⟩ : Preparation)⟩
  return admitted

/-- Starts what was admitted, and lets it fail if it is refused. -/
def transmission (plan : Plan) (admitted : Bool) : Run σ Unit := do
  if admitted then
    if ← step .txStarted ⟨.txStarted, plan.frame⟩ then onAir plan else failed plan
  else failed plan

def ending (plan : Plan) : Run σ Unit := do
  let _ ← step .terminate ⟨.terminate, (⟨.ieee802154, .higherLayer⟩ : Termination)⟩
  let _ ← step .prioChanged ⟨.prioChanged, (⟨plan.granted, .idle⟩ : PriorityChange)⟩

def attempt (plan : Plan) : Run σ Unit := do
  let admitted ← beginning plan
  transmission plan admitted
  ending plan

def run (bench : Bench σ) (plan : Plan) : Acted (Stage σ) := do
  let ((), stage) ← attempt plan { bench }
  return stage

end Replay

end MacDispatch
