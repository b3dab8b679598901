import MacDispatch.Dispatch.Hook
import MacDispatch.Dispatch.Layout

/-! # Registries

A registry holds the candidates of every channel and dispatches signals to them. A dispatch
changes the states of the candidates that it asks and nothing else in the registry. What can be
observed of it is a firing. A table needs no mark of its channel, since it is known by it. -/

namespace MacDispatch

open Text (Outline)

/-- One dispatch on a channel as it can be observed. -/
structure Firing where
  channel : Channel
  payload : channel.Payload
  /-- The outcome of the dispatch; a broadcast has none. -/
  verdict? : Option Bool
  calls : List (Call channel)

def Firing.admitted (firing : Firing) : Bool := firing.verdict?.getD true

def Firing.features (firing : Firing) : List Feature := firing.calls.map Call.feature

/-- The frozen tables, one for each channel. -/
structure Registry (σ : Type) where
  features : FeatureSet
  table : (c : Channel) → List (Candidate σ c)

namespace Registry

variable {σ : Type}

def set (registry : Registry σ) (c : Channel) (candidates : List (Candidate σ c)) :
    Registry σ where
  features := registry.features
  table d := if h : c = d then h ▸ candidates else registry.table d

@[simp] theorem table_set_self (registry : Registry σ) (c : Channel)
    (candidates : List (Candidate σ c)) : (registry.set c candidates).table c = candidates := by
  simp [set]

theorem table_set_of_ne (registry : Registry σ) {c d : Channel} (h : c ≠ d)
    (candidates : List (Candidate σ c)) :
    (registry.set c candidates).table d = registry.table d := by
  simp [set, h]

def dispatch (registry : Registry σ) (signal : Signal) : Acted (Firing × Registry σ) := do
  let round ← Candidate.round signal.channel signal.payload (registry.table signal.channel)
  return (⟨signal.channel, signal.payload, round.verdict?, round.calls⟩,
    registry.set signal.channel round.candidates)

def dispatchAll (registry : Registry σ) : List Signal → Acted (List Firing × Registry σ)
  | [] => return ([], registry)
  | signal :: rest => do
    let (firing, registry) ← registry.dispatch signal
    let (firings, registry) ← registry.dispatchAll rest
    return (firing :: firings, registry)

/-- What can be observed of a dispatch, and the registry afterwards. -/
def fire (registry : Registry σ) (signal : Signal) : Firing × Registry σ :=
  (registry.dispatch signal).value

def run (registry : Registry σ) (signals : List Signal) : List Firing × Registry σ :=
  (registry.dispatchAll signals).value

def candidates (registry : Registry σ) (c : Channel) : List Feature :=
  (registry.table c).map Candidate.feature

def size (registry : Registry σ) (c : Channel) : Nat := (registry.table c).length

def total (registry : Registry σ) : Nat :=
  Channel.all.foldr (fun c n => registry.size c + n) 0

def layout (registry : Registry σ) : List ChannelLayout :=
  Channel.all.map fun c => .ofFeatures c (registry.candidates c)

@[simp] theorem length_candidates (registry : Registry σ) (c : Channel) :
    (registry.candidates c).length = registry.size c := by
  simp [candidates, size]

def outline (registry : Registry σ) : Outline :=
  let channel (c : Channel) : String × Outline :=
    (c.name, .record "ChannelHooks" [("channel", Vocabulary.outline c),
      ("features", .list ((registry.candidates c).map Vocabulary.outline))])
  .record "HookDispatcher" [("registry",
    .record "HookRegistry" (("features", registry.features.outline) :: Channel.all.map channel))]

end Registry

end MacDispatch
