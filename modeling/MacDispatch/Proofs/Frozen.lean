import MacDispatch.Proofs.Runs
import MacDispatch.Proofs.Tables
import MacDispatch.Rehearsal.Script

/-! # Frozen registries

A registry is frozen when registrations freeze into it. Main statement: these are the registries
whose tables are strictly ranked and hold features that are on, whatever the states of the hooks;
so dispatches lead from one to another. -/

namespace MacDispatch

open List

variable {σ : Type}

namespace Registry

/-- Some registrations freeze into the registry. -/
def Frozen (registry : Registry σ) : Prop :=
  ∃ features registrations, ofRegistrations features registrations = .ok registry

/-- The registrations that the tables hold, channel by channel. -/
def registrations (registry : Registry σ) : List (Registration σ) :=
  Channel.all.flatMap fun c => (registry.table c).map Candidate.registration

theorem Frozen.ranked {registry : Registry σ} (h : registry.Frozen) (c : Channel) :
    (registry.table c).Pairwise fun a b => a.feature.rank < b.feature.rank := by
  obtain ⟨features, registrations, hok⟩ := h
  exact (tablesSpec_of_eq_ok hok).ranked c

theorem Frozen.enabled {registry : Registry σ} (h : registry.Frozen) {c : Channel}
    {candidate : Candidate σ c} (hmem : candidate ∈ registry.table c) :
    candidate.feature.isEnabledIn registry.features = true := by
  obtain ⟨features, registrations, hok⟩ := h
  have hspec := tablesSpec_of_eq_ok hok
  have hjoins : candidate.registration ∈ registrations.filter (·.joins features c) :=
    (hspec.perm c).mem_iff.mp (mem_map_of_mem hmem)
  have hon := (mem_filter.mp hjoins).2
  rw [hspec.features_eq]
  simp only [Registration.joins, Bool.and_eq_true] at hon
  exact hon.1

theorem Frozen.nodup_candidates {registry : Registry σ} (h : registry.Frozen) (c : Channel) :
    (registry.candidates c).Nodup :=
  Candidate.nodup_of_ranked (h.ranked c)

private theorem filter_joins_registrations {registry : Registry σ}
    (h : ∀ c, ∀ candidate ∈ registry.table c,
      candidate.feature.isEnabledIn registry.features = true) (c : Channel) :
    registry.registrations.filter (·.joins registry.features c) =
      (registry.table c).map Candidate.registration := by
  have hpart : ∀ d, ((registry.table d).map Candidate.registration).filter
      (·.joins registry.features c) =
        if d = c then (registry.table d).map Candidate.registration else [] := by
    intro d
    split
    · subst d
      refine filter_eq_self.mpr fun registration hr => ?_
      obtain ⟨candidate, hmem, rfl⟩ := mem_map.mp hr
      simp [Registration.joins, Candidate.registration, h c candidate hmem]
    · refine filter_eq_nil_iff.mpr fun registration hr => ?_
      obtain ⟨candidate, hmem, rfl⟩ := mem_map.mp hr
      simp [Registration.joins, Candidate.registration, *]
  rw [registrations, filter_flatMap]
  simp only [hpart]
  cases c <;> simp [Channel.all]

/-- Tables that are strictly ranked and hold only features that are on freeze into themselves. -/
theorem ofRegistrations_registrations {registry : Registry σ}
    (hranked : ∀ c, (registry.table c).Pairwise fun a b => a.feature.rank < b.feature.rank)
    (hon : ∀ c, ∀ candidate ∈ registry.table c,
      candidate.feature.isEnabledIn registry.features = true) :
    ofRegistrations registry.features registry.registrations = .ok registry := by
  have hpending : ∀ c,
      (Draft.ofRegistrations registry.features registry.registrations).pending c =
        registry.table c := by
    intro c
    apply map_injective_iff.mpr Candidate.registration_injective
    rw [Draft.map_pending_ofRegistrations, filter_joins_registrations hon]
  have hnodup : ∀ c, (((Draft.ofRegistrations registry.features registry.registrations).pending
      c).map Candidate.feature).Nodup := by
    intro c
    rw [hpending]
    exact Candidate.nodup_of_ranked (hranked c)
  have htable : ∀ c,
      (Draft.ofRegistrations registry.features registry.registrations).ranked c =
        registry.table c := by
    intro c
    apply Candidate.eq_of_perm_of_ranked _ _ (hranked c)
    · rw [← hpending]
      exact Draft.ranked_perm _ c
    · exact Draft.pairwise_ranked_of_nodup (hnodup c)
  refine Draft.freeze_eq_ok_iff.mpr ⟨hnodup, ?_⟩
  cases registry
  simp only [Draft.tables, mk.injEq]
  exact ⟨Draft.features_ofRegistrations _, funext htable⟩

theorem frozen_iff {registry : Registry σ} :
    registry.Frozen ↔
      (∀ c, (registry.table c).Pairwise fun a b => a.feature.rank < b.feature.rank) ∧
        ∀ c, ∀ candidate ∈ registry.table c,
          candidate.feature.isEnabledIn registry.features = true :=
  ⟨fun h => ⟨h.ranked, fun _ _ => h.enabled⟩,
    fun h => ⟨_, _, ofRegistrations_registrations h.1 h.2⟩⟩

/-- Being frozen is a matter of the features on the tables. -/
theorem frozen_iff_candidates {registry : Registry σ} :
    registry.Frozen ↔
      ∀ c, (registry.candidates c).Pairwise (Feature.rank · < Feature.rank ·) ∧
        ∀ feature ∈ registry.candidates c, feature.isEnabledIn registry.features = true := by
  simp only [frozen_iff, candidates, pairwise_map, forall_mem_map, forall_and]

/-- A dispatch leaves a frozen registry frozen. -/
theorem Frozen.fire {registry : Registry σ} (h : registry.Frozen) (signal : Signal) :
    (registry.fire signal).2.Frozen := by
  rw [frozen_iff_candidates] at h ⊢
  simpa only [candidates, map_feature_table_fire, features_fire] using h

theorem Frozen.run {registry : Registry σ} (h : registry.Frozen) (signals : List Signal) :
    (registry.run signals).2.Frozen :=
  run_induction (fun _ signal hfrozen => hfrozen.fire signal) h signals

end Registry

/-! ## Scripted registries -/

/-- A registry of scripted hooks, given as features with their verdicts channel by channel. -/
def Script.registry (features : FeatureSet) (hooks : Channel → List (Feature × List Bool)) :
    Registry (List Bool) where
  features := features
  table c := (hooks c).map fun entry => ⟨entry.1, hook c entry.2⟩

theorem Script.frozen_registry {features : FeatureSet}
    {hooks : Channel → List (Feature × List Bool)}
    (h : ∀ c, ((hooks c).map Prod.fst).Pairwise (Feature.rank · < Feature.rank ·) ∧
      ∀ feature ∈ (hooks c).map Prod.fst, feature.isEnabledIn features = true) :
    (registry features hooks).Frozen := by
  rw [Registry.frozen_iff_candidates]
  intro c
  have hfeatures : (registry features hooks).candidates c = (hooks c).map Prod.fst := by
    rw [Registry.candidates, registry, map_map]
    rfl
  rw [hfeatures]
  exact h c

/-- Three hooks on one channel, the second of which refuses once, and a listener on another. -/
def Script.refusingSecond : Registry (List Bool) :=
  registry .all fun
    | .terminate => [(.csmaCa, [true, false]), (.ackTimeout, [false, true]), (.txTimeout, [])]
    | .prioChanged => [(.csmaCa, [])]
    | _ => []

theorem Script.frozen_refusingSecond : refusingSecond.Frozen :=
  frozen_registry fun c => by cases c <;> decide

end MacDispatch
