import MacDispatch.Proofs.Frozen

/-! # Consent

Main statement: on a consent channel the first refusal is the verdict. Whoever comes before it is
asked once, in order and with what the caller passed; whoever comes after it is not asked and
stays as it was. -/

namespace MacDispatch

open List

variable {σ : Type}

namespace Registry

/-- What a dispatch on a consent channel does, in terms of the candidates of its channel. -/
structure ConsentSpec (registry : Registry σ) (signal : Signal) : Prop where
  ranked : (registry.table signal.channel).Pairwise fun a b => a.feature.rank < b.feature.rank
  split : registry.asked signal ++ registry.spared signal = registry.table signal.channel
  calls_eq : (registry.fire signal).1.calls =
    (registry.asked signal).map fun candidate =>
      ⟨candidate.feature, signal.payload, candidate.answer signal.payload⟩
  /-- Whoever is asked says yes, except for the last one when the verdict is no. -/
  asked_eq : registry.asked signal = registry.table signal.channel ∧
      (∀ candidate ∈ registry.asked signal, candidate.refuses signal.payload = false) ∨
    ∃ front last, registry.asked signal = front ++ [last] ∧
      (∀ candidate ∈ front, candidate.refuses signal.payload = false) ∧
      last.refuses signal.payload = true
  verdict_eq_false_iff : (registry.fire signal).1.verdict? = some false ↔
    ∃ candidate ∈ registry.table signal.channel, candidate.refuses signal.payload = true
  verdict_eq_true_iff : (registry.fire signal).1.verdict? = some true ↔
    ∀ candidate ∈ registry.table signal.channel, candidate.refuses signal.payload = false
  table_eq : (registry.fire signal).2.table signal.channel =
    (registry.asked signal).map (·.answered signal.payload) ++ registry.spared signal
  table_of_ne : ∀ c, signal.channel ≠ c → (registry.fire signal).2.table c = registry.table c
  empty : registry.table signal.channel = [] →
    (registry.fire signal).1.verdict? = some true ∧ (registry.fire signal).1.calls = []

theorem policy_of_mem_consent {c : Channel}
    (h : c ∈ [Channel.terminate, .preTransmission, .txFailed, .txStarted]) :
    c.policy = .consent := by
  simp only [mem_cons, not_mem_nil, or_false] at h
  rcases h with rfl | rfl | rfl | rfl <;> rfl

/-- On a consent channel of a frozen registry, candidates are asked by rank up to the first that
refuses, and that refusal is the verdict. -/
theorem fire_consent {registry : Registry σ} (frozen : registry.Frozen) (signal : Signal)
    (h : signal.channel ∈ [Channel.terminate, .preTransmission, .txFailed, .txStarted]) :
    ConsentSpec registry signal := by
  have hverdict := verdict?_fire_of_consent registry signal (policy_of_mem_consent h)
  refine ⟨frozen.ranked _, asked_append_spared _ _, calls_fire _ _, ?_, ?_, ?_,
    table_fire_self _ _, fun c hc => table_fire_of_ne _ _ hc, ?_⟩
  · rcases Candidate.take_reach_cases signal.payload (registry.table signal.channel) with
      ⟨htake, hyes⟩ | hno
    · exact .inl ⟨htake, fun candidate hc => hyes candidate (htake ▸ hc)⟩
    · exact .inr hno
  · simp [hverdict]
  · simp [hverdict]
  · intro hnil
    have hcalls := calls_fire registry signal
    rw [asked, hnil] at hcalls
    exact ⟨by simp [hverdict, hnil], hcalls⟩

/-- The second of three hooks refuses a termination, and the third is not asked. -/
theorem fire_consent_refusingSecond :
    Script.refusingSecond.Frozen ∧
      ConsentSpec Script.refusingSecond
        ⟨.terminate, (⟨.ieee802154, .higherLayer⟩ : Termination)⟩ :=
  ⟨Script.frozen_refusingSecond, fire_consent Script.frozen_refusingSecond _ (by decide)⟩

end Registry

end MacDispatch
