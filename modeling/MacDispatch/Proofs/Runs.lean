import MacDispatch.Proofs.Reach

/-! # Runs

A run dispatches signals one after another. Each firing of a run is a dispatch by the registry as
the signals before it have left it, and of the candidates on the tables only the states change. -/

namespace MacDispatch

open List

variable {σ : Type}

def Firing.signal (firing : Firing) : Signal := ⟨firing.channel, firing.payload⟩

/-- The last one called refused, and nobody before. -/
def Firing.RefusedBy (firing : Firing) (last : Call firing.channel) : Prop :=
  ∃ front, firing.calls = front ++ [last] ∧ (∀ call ∈ front, call.answer.refuses = false) ∧
    last.answer.refuses = true

namespace Registry

/-! ## Runs, signal by signal -/

@[simp] theorem signal_fire (registry : Registry σ) (signal : Signal) :
    (registry.fire signal).1.signal = signal := rfl

@[simp] theorem run_nil (registry : Registry σ) : registry.run [] = ([], registry) := rfl

theorem run_cons (registry : Registry σ) (signal : Signal) (rest : List Signal) :
    registry.run (signal :: rest) =
      ((registry.fire signal).1 :: ((registry.fire signal).2.run rest).1,
        ((registry.fire signal).2.run rest).2) := rfl

theorem run_append (registry : Registry σ) (front back : List Signal) :
    registry.run (front ++ back) =
      ((registry.run front).1 ++ ((registry.run front).2.run back).1,
        ((registry.run front).2.run back).2) := by
  induction front generalizing registry with
  | nil => rfl
  | cons signal front ih => rw [cons_append, run_cons, ih, run_cons, cons_append]

/-- A run has one firing for each signal, in order. -/
theorem map_signal_run (registry : Registry σ) (signals : List Signal) :
    (registry.run signals).1.map Firing.signal = signals := by
  induction signals generalizing registry with
  | nil => rfl
  | cons signal rest ih => rw [run_cons, map_cons, signal_fire, ih]

/-- A firing of a run is a dispatch by the registry that the signals before it have left. -/
theorem exists_fire_of_mem_run {registry : Registry σ} {signals : List Signal} {firing : Firing}
    (h : firing ∈ (registry.run signals).1) :
    ∃ front signal back, signals = front ++ signal :: back ∧
      firing = ((registry.run front).2.fire signal).1 := by
  induction signals generalizing registry with
  | nil => simp at h
  | cons signal rest ih =>
    rw [run_cons, mem_cons] at h
    rcases h with rfl | h
    · exact ⟨[], signal, rest, rfl, rfl⟩
    · obtain ⟨front, later, back, rfl, hfiring⟩ := ih h
      exact ⟨signal :: front, later, back, rfl, hfiring⟩

/-- What every dispatch preserves, every run preserves. -/
theorem run_induction {P : Registry σ → Prop}
    (step : ∀ registry signal, P registry → P (registry.fire signal).2)
    {registry : Registry σ} (h : P registry) (signals : List Signal) :
    P (registry.run signals).2 := by
  induction signals generalizing registry with
  | nil => exact h
  | cons signal rest ih => exact ih (step registry signal h)

/-! ## What a run leaves alone -/

theorem map_role_table_run (registry : Registry σ) (signals : List Signal) (c : Channel) :
    ((registry.run signals).2.table c).map Candidate.role =
      (registry.table c).map Candidate.role := by
  refine run_induction (P := fun later => (later.table c).map Candidate.role =
    (registry.table c).map Candidate.role) ?_ rfl signals
  intro later signal h
  rw [map_role_table_fire, h]

/-- Whoever is on a table after a run was on it before, in some state. -/
theorem exists_role_eq_of_mem_table_run {registry : Registry σ} {signals : List Signal}
    {c : Channel} {candidate : Candidate σ c}
    (h : candidate ∈ (registry.run signals).2.table c) :
    ∃ former ∈ registry.table c, former.role = candidate.role := by
  have hrole : candidate.role ∈ (registry.table c).map Candidate.role := by
    rw [← map_role_table_run registry signals]
    exact mem_map_of_mem h
  exact mem_map.mp hrole

/-- Whoever is on a table before a run is on it afterwards, in some state. -/
theorem exists_role_eq_of_mem_table {registry : Registry σ} (signals : List Signal) {c : Channel}
    {candidate : Candidate σ c} (h : candidate ∈ registry.table c) :
    ∃ later ∈ (registry.run signals).2.table c, later.role = candidate.role := by
  have hrole : candidate.role ∈ ((registry.run signals).2.table c).map Candidate.role := by
    rw [map_role_table_run]
    exact mem_map_of_mem h
  exact mem_map.mp hrole

theorem candidates_run (registry : Registry σ) (signals : List Signal) (c : Channel) :
    (registry.run signals).2.candidates c = registry.candidates c := by
  refine run_induction (P := fun later => later.candidates c = registry.candidates c) ?_ rfl
    signals
  intro later signal h
  rw [candidates, map_feature_table_fire, ← candidates, h]

/-! ## Firings of a run -/

/-- Whoever is called in a run stood on the table of the channel from the beginning. -/
theorem exists_mem_table_of_mem_calls {registry : Registry σ} {signals : List Signal}
    {firing : Firing} (h : firing ∈ (registry.run signals).1) {call : Call firing.channel}
    (hcall : call ∈ firing.calls) :
    ∃ candidate ∈ registry.table firing.channel, candidate.feature = call.feature ∧
      ∃ state, call.answer = (candidate.hook.respond call.payload state).1 := by
  obtain ⟨front, signal, back, rfl, rfl⟩ := exists_fire_of_mem_run h
  rw [calls_fire] at hcall
  obtain ⟨current, hasked, rfl⟩ := mem_map.mp hcall
  obtain ⟨former, hformer, hrole⟩ := exists_role_eq_of_mem_table_run (mem_of_mem_take hasked)
  have hrespond := Candidate.respond_eq_of_role_eq hrole
  exact ⟨former, hformer, congrArg Prod.fst hrole, current.hook.state,
    congrArg (fun respond => (respond signal.payload current.hook.state).1) hrespond.symm⟩

/-- A broadcast reaches the same features at any time. -/
theorem features_of_broadcast {registry : Registry σ} {signals : List Signal} {firing : Firing}
    (h : firing ∈ (registry.run signals).1) (hp : firing.channel.policy = .broadcast) :
    firing.features = registry.candidates firing.channel := by
  obtain ⟨front, signal, back, rfl, rfl⟩ := exists_fire_of_mem_run h
  rw [features_firing_of_broadcast hp, candidates_run]
  rfl

/-- Every broadcast of a run is answered by whoever was on the table of the channel from the
beginning. -/
theorem exists_answered_of_broadcast {registry : Registry σ} (front : List Signal)
    {signal : Signal} (hp : signal.channel.policy = .broadcast)
    {candidate : Candidate σ signal.channel} (h : candidate ∈ registry.table signal.channel) :
    ∃ current ∈ (registry.run front).2.table signal.channel, current.role = candidate.role ∧
      current.answered signal.payload ∈
        (registry.run (front ++ [signal])).2.table signal.channel := by
  obtain ⟨current, hmem, hrole⟩ := exists_role_eq_of_mem_table front h
  refine ⟨current, hmem, hrole, ?_⟩
  rw [run_append, run_cons, run_nil, table_fire_of_broadcast _ _ hp]
  exact mem_map_of_mem (f := fun c : Candidate σ signal.channel => c.answered signal.payload) hmem

/-- A firing of a run has a verdict exactly where candidates are asked. -/
theorem verdict?_eq_none_iff_of_mem_run {registry : Registry σ} {signals : List Signal}
    {firing : Firing} (h : firing ∈ (registry.run signals).1) :
    firing.verdict? = none ↔ firing.channel.policy = .broadcast := by
  obtain ⟨front, signal, back, rfl, rfl⟩ := exists_fire_of_mem_run h
  constructor
  · intro hnone
    cases hp : signal.channel.policy with
    | broadcast => exact hp
    | consent =>
      rw [verdict?_fire_of_consent _ _ hp] at hnone
      cases hnone
  · exact verdict?_fire_of_broadcast _ _

/-- A dispatch is refused by the last one called, or by nobody. -/
theorem refused_cases (registry : Registry σ) (signal : Signal) :
    ((registry.fire signal).1.verdict? = some false ∧
        ∃ last, (registry.fire signal).1.RefusedBy last) ∨
      (registry.fire signal).1.verdict? ≠ some false ∧
        ∀ call ∈ (registry.fire signal).1.calls, call.answer.refuses = false := by
  have hcalls := registry.calls_fire signal
  rcases Candidate.take_reach_cases signal.payload (registry.table signal.channel) with
    ⟨-, hyes⟩ | ⟨front, last, htake, hyes, hno⟩
  · refine .inr ⟨?_, ?_⟩
    · cases hp : signal.channel.policy with
      | broadcast => simp [verdict?_fire_of_broadcast _ _ hp]
      | consent => simpa [verdict?_fire_of_consent _ _ hp] using hyes
    · rw [hcalls]
      exact forall_mem_map.mpr fun candidate hmem => hyes candidate (mem_of_mem_take hmem)
  · have hlast : last ∈ registry.asked signal := by simp [asked, htake]
    have hp : signal.channel.policy = .consent := by
      cases hp : signal.channel.policy with
      | consent => rfl
      | broadcast => simp [last.refuses_of_broadcast hp] at hno
    have hfront : ∀ call ∈ front.map (·.call signal.payload), call.answer.refuses = false :=
      forall_mem_map.mpr hyes
    rw [asked, htake, map_append] at hcalls
    refine .inl ⟨?_, last.call signal.payload, _, hcalls, hfront, hno⟩
    simpa [verdict?_fire_of_consent _ _ hp] using ⟨last, mem_of_mem_take hlast, hno⟩

theorem mem_signals_of_mem_run {registry : Registry σ} {signals : List Signal} {firing : Firing}
    (h : firing ∈ (registry.run signals).1) : firing.signal ∈ signals := by
  rw [← map_signal_run registry signals]
  exact mem_map_of_mem h

theorem exists_channel_run_iff {registry : Registry σ} {signals : List Signal} {c : Channel} :
    (∃ firing ∈ (registry.run signals).1, firing.channel = c) ↔
      ∃ signal ∈ signals, signal.channel = c := by
  constructor
  · rintro ⟨firing, hmem, hc⟩
    exact ⟨firing.signal, mem_signals_of_mem_run hmem, hc⟩
  · rintro ⟨signal, hmem, hc⟩
    rw [← map_signal_run registry signals] at hmem
    obtain ⟨firing, hfiring, rfl⟩ := mem_map.mp hmem
    exact ⟨firing, hfiring, hc⟩

/-- The only signal of a run on its channel is behind each firing on that channel. -/
theorem eq_fire_of_mem_run {registry : Registry σ} (front : List Signal) (signal : Signal)
    (back : List Signal) {firing : Firing}
    (h : firing ∈ (registry.run (front ++ signal :: back)).1)
    (hc : firing.channel = signal.channel) (hfront : ∀ s ∈ front, s.channel ≠ signal.channel)
    (hback : ∀ s ∈ back, s.channel ≠ signal.channel) :
    firing = ((registry.run front).2.fire signal).1 := by
  rw [run_append, run_cons, mem_append, mem_cons] at h
  rcases h with h | h | h
  · exact absurd hc (hfront _ (mem_signals_of_mem_run h))
  · exact h
  · exact absurd hc (hback _ (mem_signals_of_mem_run h))

end Registry

end MacDispatch
