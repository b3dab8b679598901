import MacDispatch.Proofs.Runs
import MacDispatch.Rehearsal.Bench
import Mathlib.Data.List.Basic

/-! # Deeds

What is done in a dispatch, apart from what is told about it, is what the candidates do who are
asked. A bench remembers of it the calls recorded and the latest continuations. Where every hook
records the call that was made to it, the calls recorded in a run are the calls made. -/

namespace MacDispatch

open List

variable {σ : Type}

/-! ## Kinds of deeds -/

namespace Deed

def recorded? : Deed → Option ProbeCall
  | record call => some call
  | _ => none

/-- The continuation that is kept, with the feature that keeps it. -/
def kept? : Deed → Option (Feature × Callback)
  | keep keeper callback => some (keeper, callback)
  | _ => none

def notice? : Deed → Option Notice
  | notify notice => some notice
  | _ => none

end Deed

/-- A memory grows by the calls recorded, and each feature keeps its latest continuation. -/
theorem Memory.performAll_eq (memory : Memory) (deeds : List Deed) :
    memory.performAll deeds = ⟨memory.log ++ deeds.filterMap Deed.recorded?,
      (deeds.filterMap Deed.kept?).foldl (fun held kept => held.keep kept.1 kept.2)
        memory.deferrals⟩ := by
  induction deeds generalizing memory with
  | nil => rw [filterMap_nil, append_nil]; rfl
  | cons deed rest ih =>
    have hrest : memory.performAll (deed :: rest) = (memory.perform deed).performAll rest := rfl
    rw [hrest, ih]
    cases deed <;> simp [perform, filterMap_cons, Deed.recorded?, Deed.kept?]

/-! ## Deeds of runs -/

namespace Registry

variable (registry : Registry σ) (signal : Signal)

/-- Whatever is not told is done by the candidates who are asked. -/
theorem filterMap_deeds_dispatch {α : Type} (kind : Deed → Option α)
    (h : ∀ event, kind (.tell event) = none) :
    (registry.dispatch signal).deeds.filterMap kind =
      (registry.asked signal).flatMap fun candidate =>
        (candidate.deeds signal.payload).filterMap kind := by
  have hopening : kind (Candidate.opening (registry.table signal.channel)) = none := h _
  have hrefusal : (Candidate.refusal signal.payload
      (registry.table signal.channel)).filterMap kind = [] := by
    refine filterMap_eq_nil_iff.mpr fun deed hmem => ?_
    obtain ⟨last, -, rfl⟩ := mem_map.mp hmem
    exact h _
  rw [deeds_dispatch, filterMap_cons_none hopening, filterMap_append, hrefusal, append_nil,
    filterMap_flatMap]

theorem deeds_dispatchAll_cons (rest : List Signal) :
    (registry.dispatchAll (signal :: rest)).deeds =
      (registry.dispatch signal).deeds ++ ((registry.fire signal).2.dispatchAll rest).deeds := by
  rw [dispatchAll, Acted.deeds_bind, Acted.deeds_bind, Acted.deeds_pure, append_nil]
  rfl

theorem deeds_dispatchAll_append (front back : List Signal) :
    (registry.dispatchAll (front ++ back)).deeds =
      (registry.dispatchAll front).deeds ++ ((registry.run front).2.dispatchAll back).deeds := by
  induction front generalizing registry with
  | nil => rfl
  | cons signal rest ih =>
    rw [cons_append, deeds_dispatchAll_cons, ih, deeds_dispatchAll_cons, append_assoc, run_cons]

end Registry

/-! ## Hooks that record their calls -/

def Call.record {c : Channel} (call : Call c) : ProbeCall :=
  ⟨c, call.feature, call.answer.verdict?⟩

/-- Whenever it is asked, the hook records once that the feature was, on which channel, and with
which verdict. -/
def Hook.RecordsFor {c : Channel} (feature : Feature) (hook : Hook σ c) : Prop :=
  ∀ payload state, (hook.act payload state).deeds.filterMap Deed.recorded? =
    [⟨c, feature, (hook.respond payload state).1.verdict?⟩]

namespace Registry

/-- Every hook on the tables records the calls made to it. -/
def Recording (registry : Registry σ) : Prop :=
  ∀ c, ∀ candidate ∈ registry.table c, candidate.hook.RecordsFor candidate.feature

theorem Recording.fire {registry : Registry σ} (h : registry.Recording) (signal : Signal) :
    (registry.fire signal).2.Recording := by
  intro c candidate hmem
  have hrole : candidate.role ∈ (registry.table c).map Candidate.role := by
    rw [← map_role_table_fire registry signal]
    exact mem_map_of_mem hmem
  obtain ⟨former, hformer, he⟩ := mem_map.mp hrole
  have hfeature : former.feature = candidate.feature := congrArg Prod.fst he
  have hact : former.hook.act = candidate.hook.act := congrArg Prod.snd he
  intro payload state
  rw [← hfeature, Hook.respond, ← hact]
  exact h c former hformer payload state

/-- The calls recorded in a dispatch are the calls made. -/
theorem Recording.recorded_dispatch {registry : Registry σ} (h : registry.Recording)
    (signal : Signal) :
    (registry.dispatch signal).deeds.filterMap Deed.recorded? =
      (registry.fire signal).1.calls.map Call.record := by
  have hasked : ∀ candidate ∈ registry.asked signal,
      (candidate.deeds signal.payload).filterMap Deed.recorded? =
        [(candidate.call signal.payload).record] :=
    fun candidate hmem => h _ candidate (mem_of_mem_take hmem) _ _
  calc
    (registry.dispatch signal).deeds.filterMap Deed.recorded?
      = (registry.asked signal).flatMap fun candidate =>
          (candidate.deeds signal.payload).filterMap Deed.recorded? :=
        registry.filterMap_deeds_dispatch signal _ fun _ => rfl
    _ = (registry.asked signal).flatMap fun candidate =>
          [(candidate.call signal.payload).record] := flatMap_congr hasked
    _ = ((registry.asked signal).map (·.call signal.payload)).map Call.record := by
      rw [map_map, map_eq_flatMap]
      rfl
    _ = (registry.fire signal).1.calls.map Call.record :=
      congrArg (map Call.record) (registry.calls_fire signal).symm

end Registry

/-! ## Benches -/

namespace Bench

variable (bench : Bench σ) (signal : Signal)

theorem value_dispatch : (bench.dispatch signal).value =
    ((bench.engine.fire signal).1,
      { bench.toMemory.performAll (bench.engine.dispatch signal).deeds with
        engine := (bench.engine.fire signal).2 }) := rfl

theorem log_dispatch : (bench.dispatch signal).value.2.log =
    bench.log ++ (bench.engine.dispatch signal).deeds.filterMap Deed.recorded? := by
  rw [value_dispatch, Memory.performAll_eq]

end Bench

end MacDispatch
