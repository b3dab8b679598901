import MacDispatch.Proofs.Runs

/-! # Isolation

Main statement: channels are isolated from each other. A dispatch reads and changes the table of
its own channel only, so what a run shows of a channel is what the signals on that channel show
by themselves. Where hooks do not remember anything, nothing does. -/

namespace MacDispatch

open List

variable {σ : Type}

/-- What the hook answers depends on nothing but what it is passed. -/
def Hook.Oblivious {c : Channel} (hook : Hook σ c) : Prop :=
  ∀ payload state state', (hook.respond payload state).1 = (hook.respond payload state').1

/-- No hook on the tables remembers anything. -/
def Registry.Oblivious (registry : Registry σ) : Prop :=
  ∀ c, ∀ candidate ∈ registry.table c, candidate.hook.Oblivious

namespace Candidate

/-! ## Rounds with the same answers -/

variable {c : Channel} {payload : c.Payload} {candidates candidates' : List (Candidate σ c)}

theorem call_answered {candidate : Candidate σ c} (h : candidate.hook.Oblivious)
    (former later : c.Payload) :
    (candidate.answered former).call later = candidate.call later :=
  congrArg (Call.mk candidate.feature later) (h later _ _)

theorem reach_eq_of_map_call
    (h : candidates.map (call payload) = candidates'.map (call payload)) :
    reach payload candidates = reach payload candidates' := by
  have hfind : ∀ l : List (Candidate σ c), l.findIdx? (·.refuses payload) =
      (l.map (call payload)).findIdx? (·.answer.refuses) := by
    intro l
    rw [findIdx?_map]
    rfl
  have hlength : candidates.length = candidates'.length := by
    simpa only [length_map] using congrArg List.length h
  rw [reach, reach, hfind, hfind, h, hlength]

theorem calls_round (payload : c.Payload) (candidates : List (Candidate σ c)) :
    (round c payload candidates).value.calls =
      (candidates.map (call payload)).take (reach payload candidates) := by
  rw [← map_take]
  exact congrArg Round.calls (value_round_eq payload candidates)

/-- What comes of a round, apart from the candidates, is settled by what each of them would
answer. -/
theorem value_round_eq_of_map_call
    (h : candidates.map (call payload) = candidates'.map (call payload)) :
    (round c payload candidates).value.verdict? = (round c payload candidates').value.verdict? ∧
      (round c payload candidates).value.calls = (round c payload candidates').value.calls := by
  constructor
  · cases hp : c.policy with
    | broadcast => rw [value_round_of_broadcast hp, value_round_of_broadcast hp, tell_eq, tell_eq]
    | consent =>
      have hany : ∀ l : List (Candidate σ c), l.any (·.refuses payload) =
          (l.map (call payload)).any (·.answer.refuses) := by
        intro l
        rw [any_map]
        rfl
      rw [value_round_of_consent hp, value_round_of_consent hp, ask_eq, ask_eq, hany, hany, h]
  · rw [calls_round, calls_round, reach_eq_of_map_call h, h]

end Candidate

namespace Registry

/-! ## One dispatch -/

variable (registry : Registry σ)

theorem eq_of_table_eq {registry other : Registry σ} (hf : registry.features = other.features)
    (h : ∀ c, registry.table c = other.table c) : registry = other := by
  cases registry
  cases other
  simp only [mk.injEq]
  exact ⟨hf, funext h⟩

/-- What can be observed of a dispatch is settled by what the candidates of its channel would
answer. -/
theorem fire_eq_of_map_call {registry other : Registry σ} {signal : Signal}
    (h : (registry.table signal.channel).map (Candidate.call signal.payload) =
      (other.table signal.channel).map (Candidate.call signal.payload)) :
    (registry.fire signal).1 = (other.fire signal).1 := by
  obtain ⟨hverdict, hcalls⟩ := Candidate.value_round_eq_of_map_call h
  simp only [fire_eq, hverdict, hcalls]

/-- A dispatch does not see the tables of other channels. -/
theorem fire_eq_of_table_eq {registry other : Registry σ} {signal : Signal}
    (h : registry.table signal.channel = other.table signal.channel) :
    (registry.fire signal).1 = (other.fire signal).1 :=
  fire_eq_of_map_call (by rw [h])

theorem deeds_dispatch_eq_of_table_eq {registry other : Registry σ} {signal : Signal}
    (h : registry.table signal.channel = other.table signal.channel) :
    (registry.dispatch signal).deeds = (other.dispatch signal).deeds := by
  rw [dispatch, dispatch, h]
  rfl

/-- What a dispatch makes of a table depends on that table alone. -/
theorem table_fire_eq_of_table_eq {registry other : Registry σ} {c : Channel}
    (h : registry.table c = other.table c) (signal : Signal) :
    (registry.fire signal).2.table c = (other.fire signal).2.table c := by
  by_cases hc : signal.channel = c
  · subst hc
    simp only [table_fire_self, asked, spared, h]
  · rw [table_fire_of_ne _ _ hc, table_fire_of_ne _ _ hc, h]

/-- Dispatches on two channels leave the same behind in either order. -/
theorem fire_comm {a b : Signal} (h : a.channel ≠ b.channel) :
    ((registry.fire a).2.fire b).2 = ((registry.fire b).2.fire a).2 := by
  refine eq_of_table_eq rfl fun c => ?_
  by_cases hb : b.channel = c
  · have ha : a.channel ≠ c := fun ha => h (ha.trans hb.symm)
    calc
      ((registry.fire a).2.fire b).2.table c = (registry.fire b).2.table c :=
        table_fire_eq_of_table_eq (table_fire_of_ne _ _ ha) b
      _ = ((registry.fire b).2.fire a).2.table c := (table_fire_of_ne _ _ ha).symm
  · calc
      ((registry.fire a).2.fire b).2.table c = (registry.fire a).2.table c :=
        table_fire_of_ne _ _ hb
      _ = ((registry.fire b).2.fire a).2.table c :=
        (table_fire_eq_of_table_eq (table_fire_of_ne _ _ hb) a).symm

/-- A dispatch on another channel does not show. -/
theorem fire_fire_of_ne {a b : Signal} (h : a.channel ≠ b.channel) :
    ((registry.fire a).2.fire b).1 = (registry.fire b).1 :=
  fire_eq_of_table_eq (table_fire_of_ne _ _ h)

/-! ## Runs -/

/-- The part of a run on one channel is the run of the signals on that channel. -/
theorem filter_run {registry other : Registry σ} {c : Channel}
    (h : registry.table c = other.table c) (signals : List Signal) :
    (registry.run signals).1.filter (·.channel == c) =
        (other.run (signals.filter (·.channel == c))).1 ∧
      (registry.run signals).2.table c =
        (other.run (signals.filter (·.channel == c))).2.table c := by
  -- The two runs drift apart on other channels, so the induction is on registries that have no
  -- more than this one table in common.
  induction signals generalizing registry other with
  | nil => exact ⟨rfl, h⟩
  | cons signal rest ih =>
    by_cases hc : signal.channel = c
    · obtain ⟨hfirings, htable⟩ := ih (table_fire_eq_of_table_eq h signal)
      have hyes : (signal.channel == c) = true := beq_iff_eq.mpr hc
      rw [filter_cons_of_pos (p := fun s : Signal => s.channel == c) hyes, run_cons, run_cons]
      refine ⟨?_, htable⟩
      have hfiring : (registry.fire signal).1 = (other.fire signal).1 :=
        fire_eq_of_table_eq (hc ▸ h)
      rw [filter_cons_of_pos (p := fun f : Firing => f.channel == c) hyes, hfirings, hfiring]
    · -- The signal changes the other tables only, and is not in the shorter run.
      obtain ⟨hfirings, htable⟩ := ih ((table_fire_of_ne registry signal hc).trans h)
      have hno : ¬(signal.channel == c) = true := fun he => hc (beq_iff_eq.mp he)
      rw [filter_cons_of_neg (p := fun s : Signal => s.channel == c) hno, run_cons]
      rw [filter_cons_of_neg (p := fun f : Firing => f.channel == c) hno]
      exact ⟨hfirings, htable⟩

/-- Neighbours in a run on two channels change places, and nothing else changes. -/
theorem run_swap {a b : Signal} (h : a.channel ≠ b.channel) (front back : List Signal) :
    ∃ before x y after,
      (registry.run (front ++ a :: b :: back)).1 = before ++ x :: y :: after ∧
      (registry.run (front ++ b :: a :: back)).1 = before ++ y :: x :: after ∧
      before.map Firing.signal = front ∧ x.signal = a ∧ y.signal = b ∧
      (registry.run (front ++ a :: b :: back)).2 =
        (registry.run (front ++ b :: a :: back)).2 := by
  let reached := (registry.run front).2
  refine ⟨(registry.run front).1, (reached.fire a).1, (reached.fire b).1,
    (((reached.fire a).2.fire b).2.run back).1, ?_, ?_, map_signal_run _ _, rfl, rfl, ?_⟩
  · rw [run_append, run_cons, run_cons, fire_fire_of_ne _ h]
  · rw [run_append, run_cons, run_cons, fire_fire_of_ne _ h.symm, fire_comm _ h]
  · rw [run_append, run_append, run_cons, run_cons, run_cons, run_cons, fire_comm _ h]

/-! ## Runs without memory -/

theorem Oblivious.fire {registry : Registry σ} (h : registry.Oblivious) (signal : Signal) :
    (registry.fire signal).2.Oblivious := by
  intro c candidate hmem
  have hrole : candidate.role ∈ (registry.table c).map Candidate.role := by
    rw [← map_role_table_fire registry signal]
    exact mem_map_of_mem hmem
  obtain ⟨former, hformer, he⟩ := mem_map.mp hrole
  have hrespond := Candidate.respond_eq_of_role_eq he
  intro payload state state'
  rw [← hrespond]
  exact h c former hformer payload state state'

/-- Without memory, everyone answers after a dispatch as before it. -/
theorem Oblivious.map_call_table_fire {registry : Registry σ} (h : registry.Oblivious)
    (signal : Signal) {c : Channel} (payload : c.Payload) :
    ((registry.fire signal).2.table c).map (Candidate.call payload) =
      (registry.table c).map (Candidate.call payload) := by
  by_cases hc : signal.channel = c
  · subst hc
    have hasked : ∀ candidate ∈ registry.asked signal, candidate.hook.Oblivious :=
      fun candidate hmem => h _ candidate (mem_of_mem_take hmem)
    rw [table_fire_self, ← asked_append_spared registry signal, map_append, map_append, map_map]
    congr 1
    exact map_congr_left fun candidate hmem =>
      Candidate.call_answered (hasked candidate hmem) _ _
  · rw [table_fire_of_ne _ _ hc]

/-- Without memory, every dispatch of a run shows what it would show first of all. -/
theorem Oblivious.run_eq {registry : Registry σ} (h : registry.Oblivious)
    (signals : List Signal) :
    (registry.run signals).1 = signals.map fun signal => (registry.fire signal).1 := by
  induction signals generalizing registry with
  | nil => rfl
  | cons signal rest ih =>
    have hlater : ∀ later ∈ rest,
        ((registry.fire signal).2.fire later).1 = (registry.fire later).1 :=
      fun later _ => fire_eq_of_map_call (h.map_call_table_fire signal later.payload)
    rw [run_cons, ih (h.fire signal), map_congr_left hlater, map_cons]

/-! ## Channels -/

/-- What the channels of a registry have to do with each other. -/
structure IsolationSpec (registry : Registry σ) : Prop where
  /-- What a run shows of a channel, and leaves on it, is what the signals on that channel do by
  themselves. -/
  projection : ∀ signals c,
    (registry.run signals).1.filter (·.channel == c) =
        (registry.run (signals.filter (·.channel == c))).1 ∧
      (registry.run signals).2.table c =
        (registry.run (signals.filter (·.channel == c))).2.table c
  /-- What a dispatch does depends on what came before it on its channel. -/
  done : ∀ front signal, ((registry.run front).2.dispatch signal).deeds =
    ((registry.run (front.filter (·.channel == signal.channel))).2.dispatch signal).deeds
  swap : ∀ front a b back, a.channel ≠ b.channel → ∃ before x y after,
    (registry.run (front ++ a :: b :: back)).1 = before ++ x :: y :: after ∧
    (registry.run (front ++ b :: a :: back)).1 = before ++ y :: x :: after ∧
    before.map Firing.signal = front ∧ x.signal = a ∧ y.signal = b ∧
    (registry.run (front ++ a :: b :: back)).2 = (registry.run (front ++ b :: a :: back)).2
  fresh : registry.Oblivious → ∀ signals,
    (registry.run signals).1 = signals.map fun signal => (registry.fire signal).1

/-- Whatever its hooks do, the channels of a registry are isolated, and the registry remembers
nothing but the states of its hooks. -/
theorem channels_isolated (registry : Registry σ) : IsolationSpec registry where
  projection signals _ := filter_run rfl signals
  done front _ := deeds_dispatch_eq_of_table_eq (filter_run rfl front).2
  swap front _ _ back h := run_swap registry h front back
  fresh h := h.run_eq

/-- Two hooks on every channel that count how often they were asked. The first always says yes and
the second always no, however far they have counted. -/
def counting : Registry Nat where
  features := .all
  table c := [⟨.csmaCa, 0, fun _ count => return (.ofVerdict c.policy true, count + 1)⟩,
    ⟨.ifs, 0, fun _ count => return (.ofVerdict c.policy false, count + 1)⟩]

theorem oblivious_counting : counting.Oblivious := by
  intro c candidate hmem payload state state'
  simp only [counting, mem_cons, not_mem_nil, or_false] at hmem
  rcases hmem with rfl | rfl <;> rfl

/-- The counts go up, and no answer shows it. -/
theorem channels_isolated_counting :
    (counting.fire ⟨.rxAckStarted, ()⟩).2 ≠ counting ∧ counting.Oblivious ∧
      ∀ signals, (counting.run signals).1 = signals.map fun signal => (counting.fire signal).1 := by
  refine ⟨fun h => ?_, oblivious_counting, (channels_isolated counting).fresh oblivious_counting⟩
  have hcount := congrArg
    (fun registry => (registry.table .rxAckStarted).map fun candidate => candidate.hook.state) h
  exact absurd hcount (by decide)

end Registry

end MacDispatch
