import MacDispatch.Dispatch.Assembly

/-! # Scripted hooks

A scripted hook answers from a list of verdicts: each call takes the next one, and the last one
is repeated. Without verdicts it always says yes. -/

namespace MacDispatch

namespace Script

/-- The verdict of the next call, and what is left for later calls. -/
def next : List Bool → Bool × List Bool
  | [] => (true, [])
  | [verdict] => (verdict, [verdict])
  | verdict :: rest => (verdict, rest)

/-- The hook of a channel that answers from a list of verdicts. -/
def hook (c : Channel) (verdicts : List Bool) : Hook (List Bool) c where
  state := verdicts
  act _ left := return (.ofVerdict c.policy (next left).1, (next left).2)

end Script

/-- A module written out in advance: the channels on which it registers hooks, the verdicts of
each, and where it fails, if it does. -/
structure Script where
  feature : Feature
  channels : List Channel
  verdicts : Channel → List Bool
  /-- The failure, and the number of hooks registered before it. -/
  failure : Option (Failure × Nat) := none

def Script.module (script : Script) : FeatureModule (List Bool) where
  feature := script.feature
  hooks :=
    let reached :=
      match script.failure with
      | some (_, after) => script.channels.take after
      | none => script.channels
    reached.map fun c => ⟨c, hook c (script.verdicts c)⟩
  failure := script.failure.map Prod.fst

end MacDispatch
