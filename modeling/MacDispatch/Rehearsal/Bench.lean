import MacDispatch.Dispatch.Registry
import MacDispatch.Rehearsal.Deferrals

/-! # Benches

On a bench, an engine is tried out. The bench remembers what the hooks of the engine do: the calls
that they record go into a log, from which they can be taken, and continuations are kept until
they are used. -/

namespace MacDispatch

/-- What is left of deeds once they are done. -/
structure Memory where
  log : List ProbeCall := []
  deferrals : Deferrals := {}

namespace Memory

/-- What a deed adds to the memory. -/
def perform (memory : Memory) : Deed → Memory
  | .record call => { memory with log := memory.log ++ [call] }
  | .keep keeper callback =>
    { memory with deferrals := memory.deferrals.keep keeper callback }
  | .tell _ | .notify _ => memory

def performAll (memory : Memory) (deeds : List Deed) : Memory := deeds.foldl perform memory

end Memory

/-- An engine with what is remembered of its dispatches. -/
structure Bench (σ : Type) extends Memory where
  engine : Registry σ

namespace Bench

variable {σ : Type}

/-- Dispatches a signal on the engine, and remembers what its hooks do. -/
def dispatch (bench : Bench σ) (signal : Signal) : Acted (Firing × Bench σ) :=
  let dispatched := bench.engine.dispatch signal
  { value := (dispatched.value.1,
      { bench.toMemory.performAll dispatched.deeds with engine := dispatched.value.2 })
    deeds := dispatched.deeds }

/-- Takes the recorded calls out of the log. -/
def drain (bench : Bench σ) : List ProbeCall × Bench σ := (bench.log, { bench with log := [] })

end Bench

end MacDispatch
