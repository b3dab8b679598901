import MacDispatch.Proofs.Deeds

/-! # Diagnostics

Main statement: what the log tells of a dispatch is what the dispatch does. A dispatch that asks
for consent is told of with the number of candidates, and so is its refusal, with the one who
refused and what that means; a broadcast is told of with the number of candidates, and nothing
else is told of it. So the refusals of a run can be counted in its log. -/

namespace MacDispatch

open List

/-! ## What is told -/

namespace Event

/-- The beginning of a dispatch to so many candidates. -/
def beginning (message : String) (c : Channel) (listeners : Nat) : Event where
  level := .trace
  target := "radio_mac_hooks::hooks::dispatcher"
  message := message
  fields := [("channel", .text c.name), ("candidates", .count listeners)]

/-- Candidates are about to be asked. -/
def dispatching : Channel → Nat → Event := beginning "Dispatching hook"

/-- Candidates are about to be told. -/
def broadcasting : Channel → Nat → Event := beginning "Broadcasting hook"

def refused (c : Channel) (feature : Feature) (meaning : Meaning) : Event where
  level := .debug
  target := "radio_mac_hooks::hooks::dispatcher"
  message := "Candidate returned false, dispatch stopped"
  fields := [("channel", .text c.name), ("feature", .text feature.name),
    ("meaning", .text ("Some(" ++ Vocabulary.tag meaning ++ ")"))]

/-- The number of events at the level for debugging. -/
def debugCount (events : List Event) : Nat := events.countP fun event => event.level == .debug

theorem debugCount_append (front back : List Event) :
    debugCount (front ++ back) = debugCount front + debugCount back := countP_append

end Event

/-- The number of dispatches that were refused. -/
def Firing.refusals (firings : List Firing) : Nat :=
  firings.countP fun firing => firing.verdict? == some false

theorem Round.stopped_eq {c : Channel} {meaning : Meaning} (h : c.meaning? = some meaning)
    (feature : Feature) : stopped c feature = .refused c feature meaning := by
  rw [stopped, shownMeaning, h, Option.map_some, Text.Outline.inline_option_word]
  rfl

namespace Candidate

variable {σ : Type} {c : Channel}

theorem opening_of_consent (h : c.policy = .consent) (candidates : List (Candidate σ c)) :
    opening candidates = .tell (.dispatching c candidates.length) := by
  rw [opening, h]
  rfl

theorem opening_of_broadcast (h : c.policy = .broadcast) (candidates : List (Candidate σ c)) :
    opening candidates = .tell (.broadcasting c candidates.length) := by
  rw [opening, h]
  rfl

/-- The first that refuses is among those asked. -/
theorem find?_take_reach (payload : c.Payload) (candidates : List (Candidate σ c)) :
    (candidates.take (reach payload candidates)).find? (·.refuses payload) =
      candidates.find? (·.refuses payload) := by
  induction candidates with
  | nil => rfl
  | cons candidate rest ih =>
    cases h : candidate.refuses payload
    · rw [reach_cons_of_not_refuses h, take_succ_cons, find?_cons_of_neg (by simp [h]),
        find?_cons_of_neg (by simp [h]), ih]
    · rw [reach_cons_of_refuses h, take_succ_cons, find?_cons_of_pos h, find?_cons_of_pos h]

/-- What is told at the end is told of the call that refuses, if there is one. -/
theorem refusal_eq (payload : c.Payload) (candidates : List (Candidate σ c)) :
    refusal payload candidates =
      (((candidates.take (reach payload candidates)).map (·.call payload)).find? fun call =>
        call.answer.refuses).toList.map fun call => .tell (Round.stopped c call.feature) := by
  have hfind : ((candidates.take (reach payload candidates)).map (·.call payload)).find?
      (fun call => call.answer.refuses) =
        (candidates.find? (·.refuses payload)).map (·.call payload) := by
    rw [find?_map, ← find?_take_reach]
    rfl
  rw [hfind, refusal, Option.toList_map, map_map]
  rfl

end Candidate

namespace Firing

variable {firing : Firing}

theorem find?_of_refusedBy {last : Call firing.channel} (h : firing.RefusedBy last) :
    firing.calls.find? (fun call => call.answer.refuses) = some last := by
  obtain ⟨front, hcalls, hfront, hlast⟩ := h
  have hnone : front.find? (fun call => call.answer.refuses) = none :=
    find?_eq_none.mpr fun call hmem => by simp [hfront call hmem]
  rw [hcalls, find?_append, hnone, find?_singleton, if_pos hlast]
  rfl

theorem find?_of_granted (h : ∀ call ∈ firing.calls, call.answer.refuses = false) :
    firing.calls.find? (fun call => call.answer.refuses) = none :=
  find?_eq_none.mpr fun call hmem => by simp [h call hmem]

end Firing

namespace Registry

open Event (debugCount debugCount_append)
open Firing (refusals)

variable {σ : Type} (registry : Registry σ) (signal : Signal)

def hookDeeds : List Deed := (registry.asked signal).flatMap (Candidate.deeds signal.payload)

def hookDeedsAll (registry : Registry σ) : List Signal → List Deed
  | [] => []
  | signal :: rest => registry.hookDeeds signal ++ (registry.fire signal).2.hookDeedsAll rest

theorem size_run (registry : Registry σ) (signals : List Signal) (c : Channel) :
    (registry.run signals).2.size c = registry.size c := by
  rw [← length_candidates, candidates_run, length_candidates]

theorem isSome_verdict?_fire_iff :
    (registry.fire signal).1.verdict?.isSome ↔ signal.channel.policy = .consent := by
  cases hp : signal.channel.policy with
  | consent => simp [verdict?_fire_of_consent _ _ hp]
  | broadcast => simp [verdict?_fire_of_broadcast _ _ hp]

/-! ## One dispatch -/

theorem refusal_eq_find? :
    Candidate.refusal signal.payload (registry.table signal.channel) =
      ((registry.fire signal).1.calls.find? fun call => call.answer.refuses).toList.map
        fun call => .tell (Round.stopped signal.channel call.feature) :=
  (Candidate.refusal_eq _ _).trans (congrArg (fun calls : List (Call signal.channel) =>
    (calls.find? fun call => call.answer.refuses).toList.map fun call =>
      Deed.tell (Round.stopped signal.channel call.feature)) (registry.calls_fire signal).symm)

theorem deeds_dispatch_of_granted
    (h : ∀ call ∈ (registry.fire signal).1.calls, call.answer.refuses = false) :
    (registry.dispatch signal).deeds =
      Candidate.opening (registry.table signal.channel) :: registry.hookDeeds signal := by
  rw [deeds_dispatch, refusal_eq_find?, Firing.find?_of_granted h]
  exact congrArg _ (append_nil _)

theorem deeds_dispatch_of_refusedBy {last : Call signal.channel}
    (h : (registry.fire signal).1.RefusedBy last) :
    (registry.dispatch signal).deeds = Candidate.opening (registry.table signal.channel) ::
      (registry.hookDeeds signal ++ [.tell (Round.stopped signal.channel last.feature)]) := by
  rw [deeds_dispatch, refusal_eq_find?, Firing.find?_of_refusedBy h]
  rfl

/-- What a dispatch tells of itself. What the hooks do, `own`, stands between. -/
structure DispatchTold (registry : Registry σ) (firing : Firing) (own deeds : List Deed) :
    Prop where
  granted : firing.verdict? = some true →
    deeds = .tell (.dispatching firing.channel (registry.size firing.channel)) :: own
  refused : firing.verdict? = some false →
    ∃ last meaning, firing.RefusedBy last ∧ firing.channel.meaning? = some meaning ∧
      deeds = .tell (.dispatching firing.channel (registry.size firing.channel)) ::
        (own ++ [.tell (.refused firing.channel last.feature meaning)])
  broadcast : firing.channel.policy = .broadcast →
    deeds = .tell (.broadcasting firing.channel (registry.size firing.channel)) :: own

theorem dispatchTold : DispatchTold registry (registry.fire signal).1 (registry.hookDeeds signal)
    (registry.dispatch signal).deeds := by
  have hconsent : (registry.fire signal).1.verdict?.isSome → signal.channel.policy = .consent :=
    (registry.isSome_verdict?_fire_iff signal).mp
  refine ⟨fun hyes => ?_, fun hno => ?_, fun (hp : signal.channel.policy = .broadcast) => ?_⟩
  · rcases registry.refused_cases signal with ⟨hno, -⟩ | ⟨-, hall⟩
    · simp [hyes] at hno
    · rw [deeds_dispatch_of_granted _ _ hall,
        Candidate.opening_of_consent (hconsent (by simp [hyes]))]
      rfl
  · rcases registry.refused_cases signal with ⟨-, last, hlast⟩ | ⟨hyes, -⟩
    · have hp := hconsent (by simp [hno])
      -- A channel that asks for consent has a meaning for its refusal.
      obtain ⟨meaning, hmeaning⟩ :=
        Option.isSome_iff_exists.mp (signal.channel.isSome_meaning?_iff.mpr hp)
      refine ⟨last, meaning, hlast, hmeaning, ?_⟩
      rw [deeds_dispatch_of_refusedBy _ _ hlast, Candidate.opening_of_consent hp,
        Round.stopped_eq hmeaning]
      rfl
    · exact absurd hno hyes
  · rcases registry.refused_cases signal with ⟨hno, -⟩ | ⟨-, hall⟩
    · rw [verdict?_fire_of_broadcast _ _ hp] at hno
      cases hno
    · rw [deeds_dispatch_of_granted _ _ hall, Candidate.opening_of_broadcast hp]
      rfl

/-! ## Runs -/

/-- The events for debugging of a dispatch are those of its refusal and those of its hooks. -/
theorem debugCount_dispatch : debugCount ((registry.dispatch signal).deeds.flatMap Deed.events) =
    (if (registry.fire signal).1.verdict? == some false then 1 else 0) +
      debugCount ((registry.hookDeeds signal).flatMap Deed.events) := by
  -- The beginning is told at another level, whichever it is.
  have hopening : debugCount
      (Candidate.opening (registry.table signal.channel)).events = 0 := rfl
  rcases registry.refused_cases signal with ⟨hno, last, hlast⟩ | ⟨hyes, hall⟩
  · have hstopped : debugCount
        (Deed.tell (Round.stopped signal.channel last.feature)).events = 1 := rfl
    rw [deeds_dispatch_of_refusedBy _ _ hlast, hno, flatMap_cons, flatMap_append,
      flatMap_singleton, debugCount_append, debugCount_append, hopening, hstopped]
    simp [Nat.add_comm]
  · rw [deeds_dispatch_of_granted _ _ hall, beq_eq_false_iff_ne.mpr hyes, flatMap_cons,
      debugCount_append, hopening]
    rfl

/-- The events for debugging of a run are those of its refusals and those of its hooks. -/
theorem debugCount_run (registry : Registry σ) (signals : List Signal) :
    debugCount ((registry.dispatchAll signals).deeds.flatMap Deed.events) =
      refusals (registry.run signals).1 +
        debugCount ((registry.hookDeedsAll signals).flatMap Deed.events) := by
  induction signals generalizing registry with
  | nil => rfl
  | cons signal rest ih =>
    simp only [deeds_dispatchAll_cons, hookDeedsAll, run_cons, flatMap_append, debugCount_append,
      debugCount_dispatch, ih, refusals, countP_cons]
    omega

structure DiagnosticsSpec (registry : Registry σ) (signals : List Signal) : Prop where
  fired : (registry.run signals).1.map Firing.signal = signals
  decided_iff : ∀ firing ∈ (registry.run signals).1,
    firing.verdict?.isSome ↔ firing.channel.policy = .consent
  /-- Every dispatch of the run tells of itself. -/
  told : ∀ front signal back, signals = front ++ signal :: back →
    (registry.run signals).1[front.length]? = some ((registry.run front).2.fire signal).1 ∧
      DispatchTold registry ((registry.run front).2.fire signal).1
        ((registry.run front).2.hookDeeds signal) ((registry.run front).2.dispatch signal).deeds
  /-- Nothing is told between dispatches. -/
  deeds_eq : ∀ front signal back, signals = front ++ signal :: back →
    (registry.dispatchAll signals).deeds = (registry.dispatchAll front).deeds ++
      (((registry.run front).2.dispatch signal).deeds ++
        ((registry.run (front ++ [signal])).2.dispatchAll back).deeds)
  /-- But for the events of the hooks, there is one for debugging for each refusal. -/
  counted : debugCount ((registry.dispatchAll signals).deeds.flatMap Deed.events) =
    refusals (registry.run signals).1 +
      debugCount ((registry.hookDeedsAll signals).flatMap Deed.events)

/-- Whatever the hooks of a registry do, its log tells the truth about its dispatches. -/
theorem diagnostics_truthful (registry : Registry σ) (signals : List Signal) :
    DiagnosticsSpec registry signals where
  fired := map_signal_run registry signals
  decided_iff firing h := by
    obtain ⟨front, signal, back, -, rfl⟩ := exists_fire_of_mem_run h
    exact isSome_verdict?_fire_iff _ signal
  told front signal back h := by
    subst h
    have hlength : (registry.run front).1.length = front.length := by
      simpa using congrArg length (map_signal_run registry front)
    have htold := (registry.run front).2.dispatchTold signal
    refine ⟨?_, ?_⟩
    · rw [run_append, run_cons, ← hlength, getElem?_append_right (Nat.le_refl _), Nat.sub_self]
      rfl
    · have hsize : (registry.run front).2.size signal.channel = registry.size signal.channel :=
        registry.size_run front signal.channel
      exact ⟨fun hyes => hsize ▸ htold.granted hyes, fun hno => hsize ▸ htold.refused hno,
        fun hp => hsize ▸ htold.broadcast hp⟩
  deeds_eq front signal back h := by
    subst h
    rw [deeds_dispatchAll_append, deeds_dispatchAll_cons, run_append]
    rfl
  counted := debugCount_run registry signals

end Registry

end MacDispatch
