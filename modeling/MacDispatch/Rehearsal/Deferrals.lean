import MacDispatch.Dispatch.Signal

/-! # Deferrals

A probe that refuses a transmission keeps the continuation of the attempt, to report the attempt
as failed later. Each feature keeps the latest continuation only, and gives it up once it is
used. -/

namespace MacDispatch

structure Deferrals where
  held : Feature → Option Callback := fun _ => none

namespace Deferrals

/-- A feature keeps a continuation in place of what it kept. -/
def keep (deferrals : Deferrals) (feature : Feature) (callback : Callback) : Deferrals where
  held f := if f = feature then some callback else deferrals.held f

/-- A feature gives up what it kept. -/
def release (deferrals : Deferrals) (feature : Feature) : Deferrals where
  held f := if f = feature then none else deferrals.held f

@[simp] theorem held_keep_self (deferrals : Deferrals) (feature : Feature) (callback : Callback) :
    (deferrals.keep feature callback).held feature = some callback := by
  simp [keep]

theorem held_keep_of_ne (deferrals : Deferrals) {feature f : Feature} (h : f ≠ feature)
    (callback : Callback) : (deferrals.keep feature callback).held f = deferrals.held f := by
  simp [keep, h]

@[simp] theorem held_release_self (deferrals : Deferrals) (feature : Feature) :
    (deferrals.release feature).held feature = none := by
  simp [release]

theorem held_release_of_ne (deferrals : Deferrals) {feature f : Feature} (h : f ≠ feature) :
    (deferrals.release feature).held f = deferrals.held f := by
  simp [release, h]

end Deferrals

end MacDispatch
