import MacDispatch.Proofs.Assembling
import MacDispatch.Proofs.Isolation
import MacDispatch.Proofs.Offers
import Mathlib.Data.List.Flatten

/-! # Restriction

Main statement: switching features off takes their candidates away and nothing else. What could be
built can still be built, everyone who is left keeps their place and their hook, no request that
was granted is refused, and a broadcast reaches those who are left as before. -/

namespace MacDispatch

open List

variable {σ : Type}

theorem Feature.isEnabledIn_of_subset {fewer more : FeatureSet} (h : fewer.Subset more)
    {feature : Feature} (hon : feature.isEnabledIn fewer = true) :
    feature.isEnabledIn more = true := by
  cases feature with
  | csmaCa => exact h.1 hon
  | ackTimeout => exact h.2.1 hon
  | delayedTrx => exact h.2.2.1 hon
  | ifs => exact h.2.2.2 hon
  | txTimeout => rfl

/-! ## Building with fewer features -/

theorem FeatureModule.enabled_sublist {fewer more : FeatureSet} (h : fewer.Subset more)
    (modules : List (FeatureModule σ)) : enabled fewer modules <+ enabled more modules :=
  monotone_filter_right _ fun _ => Feature.isEnabledIn_of_subset h

namespace Assembly

variable {fewer more : FeatureSet} {modules : List (FeatureModule σ)} {registry : Registry σ}

/-- What can be built can be built with fewer features. -/
theorem exists_build_of_subset (h : fewer.Subset more)
    (hbuild : (build ⟨more, modules⟩).value = .ok registry) :
    ∃ restricted, (build ⟨fewer, modules⟩).value = .ok restricted := by
  have hsound : Sound ⟨more, modules⟩ := by
    by_contra hno
    exact build_ne_ok_of_not_sound hno registry hbuild
  have honce := (Draft.nodup_pending_ofRegistrations_iff _).mp
    (Draft.freeze_eq_ok_iff.mp (ofRegistrations_of_build hbuild)).1
  refine exists_build (fun module hmem hon => ?_) fun c feature hon => ?_
  · exact hsound module hmem (Feature.isEnabledIn_of_subset h hon)
  · have hless := (FeatureModule.enabled_sublist h modules).flatMap FeatureModule.registrations
    exact Nat.le_trans hless.countP_le (honce c feature (Feature.isEnabledIn_of_subset h hon))

/-- With fewer features, the tables are those with more from which candidates are taken away. -/
theorem table_eq_filter (h : fewer.Subset more)
    (hbuild : (build ⟨more, modules⟩).value = .ok registry) {restricted : Registry σ}
    (hrestricted : (build ⟨fewer, modules⟩).value = .ok restricted) (c : Channel) :
    restricted.table c = (registry.table c).filter (·.feature.isEnabledIn fewer) := by
  have hranked := (frozen_of_build hbuild).ranked c
  have hranked' := (frozen_of_build hrestricted).ranked c
  have hmem : ∀ candidate, candidate ∈ restricted.table c ↔
      candidate ∈ (registry.table c).filter (·.feature.isEnabledIn fewer) := by
    intro candidate
    rw [mem_filter, mem_table_iff_of_build hbuild, mem_table_iff_of_build hrestricted]
    constructor
    · rintro ⟨module, hmodule, hon, hfeature, hhook⟩
      exact ⟨⟨module, hmodule, Feature.isEnabledIn_of_subset h hon, hfeature, hhook⟩,
        hfeature ▸ hon⟩
    · rintro ⟨⟨module, hmodule, -, hfeature, hhook⟩, hon⟩
      exact ⟨module, hmodule, hfeature ▸ hon, hfeature, hhook⟩
  -- Both tables are strictly ranked, so they are one if they hold the same candidates.
  refine Candidate.eq_of_perm_of_ranked ?_ hranked' (hranked.filter _)
  refine (perm_ext_iff_of_nodup ?_ ?_).mpr hmem
  · exact Nodup.of_map _ (Candidate.nodup_of_ranked hranked')
  · exact Nodup.of_map _ (Candidate.nodup_of_ranked (hranked.filter _))

end Assembly

/-! ## Dispatches -/

/-- Whoever is only told has nothing to say. -/
theorem Candidate.call_of_broadcast {c : Channel} (h : c.policy = .broadcast)
    (payload : c.Payload) (candidate : Candidate σ c) :
    candidate.call payload = ⟨candidate.feature, payload, .ofVerdict c.policy true⟩ := by
  have hsilent : ∀ {policy : Policy}, policy = .broadcast → ∀ a b : policy.Answer, a = b := by
    rintro _ rfl ⟨⟩ ⟨⟩
    rfl
  rw [call, hsilent h (candidate.answer payload) (.ofVerdict c.policy true)]

namespace Registry

/-- Without memory, a dispatch shows the same after any run. -/
theorem Oblivious.fire_run {registry : Registry σ} (h : registry.Oblivious)
    (signals : List Signal) (signal : Signal) :
    ((registry.run signals).2.fire signal).1 = (registry.fire signal).1 := by
  have hrun := h.run_eq (signals ++ [signal])
  rw [run_append, map_append, h.run_eq signals] at hrun
  exact (cons.inj (append_cancel_left hrun)).1

/-- A broadcast shows the same after any run, whatever the hooks remember. -/
theorem calls_fire_run_of_broadcast (registry : Registry σ) (signals : List Signal)
    {signal : Signal} (h : signal.channel.policy = .broadcast) :
    ((registry.run signals).2.fire signal).1.calls =
      (registry.candidates signal.channel).map fun feature =>
        ⟨feature, signal.payload, .ofVerdict signal.channel.policy true⟩ := by
  rw [calls_fire, asked_of_broadcast _ _ h, ← candidates_run registry signals, candidates, map_map]
  exact map_congr_left fun candidate _ => candidate.call_of_broadcast h _

theorem not_refuses_of_granted {registry : Registry σ} {signal : Signal}
    (h : (registry.fire signal).1.verdict? = some true) :
    signal.channel.policy = .consent ∧
      ∀ candidate ∈ registry.table signal.channel, candidate.refuses signal.payload = false := by
  cases hp : signal.channel.policy with
  | broadcast =>
    rw [verdict?_fire_of_broadcast _ _ hp] at h
    cases h
  | consent =>
    rw [verdict?_fire_of_consent _ _ hp] at h
    exact ⟨rfl, by simpa using h⟩

/-- What is left of a registry when features are switched off. -/
structure RestrictionSpec (features : FeatureSet) (registry restricted : Registry σ) : Prop where
  features_eq : restricted.features = features
  table_eq : ∀ c,
    restricted.table c = (registry.table c).filter (·.feature.isEnabledIn features)
  /-- Without memory, what was granted is granted, whatever came before it in either registry. -/
  granted : registry.Oblivious → ∀ (before before' : List Signal) (signal : Signal),
    ((registry.run before).2.fire signal).1.verdict? = some true →
      ((restricted.run before').2.fire signal).1.verdict? = some true
  told : ∀ (before before' : List Signal) (signal : Signal),
    signal.channel.policy = .broadcast →
      ((restricted.run before').2.fire signal).1.calls =
        ((registry.run before).2.fire signal).1.calls.filter (·.feature.isEnabledIn features)

theorem restrictionSpec_of_table_eq {features : FeatureSet} {registry restricted : Registry σ}
    (hfeatures : restricted.features = features) (h : ∀ c,
      restricted.table c = (registry.table c).filter (·.feature.isEnabledIn features)) :
    RestrictionSpec features registry restricted := by
  refine ⟨hfeatures, h, ?_, ?_⟩
  · intro hoblivious before before' signal hgranted
    have hoblivious' : restricted.Oblivious := fun c candidate hmem => by
      rw [h] at hmem
      exact hoblivious c candidate (mem_of_mem_filter hmem)
    rw [hoblivious.fire_run] at hgranted
    obtain ⟨hp, hyes⟩ := not_refuses_of_granted hgranted
    rw [hoblivious'.fire_run, verdict?_fire_of_consent _ _ hp, h, Option.some_inj,
      Bool.not_eq_true', any_eq_false]
    intro candidate hmem
    rw [hyes candidate (mem_of_mem_filter hmem)]
    exact Bool.false_ne_true
  · intro before before' signal hp
    have hcandidates : restricted.candidates signal.channel =
        (registry.candidates signal.channel).filter (·.isEnabledIn features) := by
      rw [candidates, candidates, h, filter_map]
      rfl
    rw [calls_fire_run_of_broadcast _ _ hp, calls_fire_run_of_broadcast _ _ hp, hcandidates,
      filter_map]
    rfl

end Registry

namespace Assembly

/-- Of what is built from modules with more features, what is built from them with fewer is what
those features leave. -/
theorem switching_off_only_removes {fewer more : FeatureSet} (h : fewer.Subset more)
    (modules : List (FeatureModule σ)) {registry : Registry σ}
    (hbuild : ((empty more).offerAll modules).build.value = .ok registry) :
    ∃ restricted, ((empty fewer).offerAll modules).build.value = .ok restricted ∧
      Registry.RestrictionSpec fewer registry restricted := by
  rw [offerAll_empty] at hbuild
  rw [offerAll_empty]
  obtain ⟨restricted, hrestricted⟩ := exists_build_of_subset h hbuild
  have hfeatures : restricted.features = fewer :=
    (Registry.tablesSpec_of_eq_ok (ofRegistrations_of_build hrestricted)).features_eq
  exact ⟨restricted, hrestricted,
    Registry.restrictionSpec_of_table_eq hfeatures (table_eq_filter h hbuild hrestricted)⟩

end Assembly

/-! ## Steady modules -/

/-- A module whose hooks give one verdict each, and count how often they have given it. -/
def FeatureModule.steady (feature : Feature) (verdicts : List (Channel × Bool))
    (failure : Option Failure) : FeatureModule Nat where
  feature := feature
  hooks := verdicts.map fun entry =>
    ⟨entry.1, 0, fun _ count => return (.ofVerdict entry.1.policy entry.2, count + 1)⟩
  failure := failure

theorem FeatureModule.oblivious_steady {feature : Feature} {verdicts : List (Channel × Bool)}
    {failure : Option Failure} : ∀ attachment ∈ (steady feature verdicts failure).hooks,
      attachment.hook.Oblivious := by
  intro attachment hmem payload state state'
  obtain ⟨entry, -, rfl⟩ := mem_map.mp hmem
  rfl

/-- Two hooks on a consent channel, of which the higher refuses, two on a broadcast channel, a
module that is refused and one that would fail. -/
def FeatureModule.steadies : List (FeatureModule Nat) :=
  [steady .txTimeout [(.terminate, true)] none,
    steady .csmaCa [(.terminate, false), (.prioChanged, true)] none,
    steady .ifs [(.prioChanged, true)] none,
    steady .csmaCa [] (some (.internal "too late")),
    steady .delayedTrx [(.rxStarted, true), (.rxStarted, true)] (some (.internal "no clock"))]

namespace Assembly

theorem oblivious_of_build {assembly : Assembly σ} {registry : Registry σ}
    (h : ∀ module ∈ assembly.modules, ∀ attachment ∈ module.hooks, attachment.hook.Oblivious)
    (hbuild : assembly.build.value = .ok registry) : registry.Oblivious := by
  intro c candidate hmem
  obtain ⟨module, hmodule, -, -, hhook⟩ := (mem_table_iff_of_build hbuild).mp hmem
  exact h module hmodule _ hhook

/-- The hook that refuses every termination goes with its feature, and the counts go on. -/
theorem switching_off_only_removes_steady :
    FeatureSet.Subset ⟨false, true, false, true⟩ ⟨true, true, false, true⟩ ∧
      ∃ registry restricted,
        ((empty ⟨true, true, false, true⟩).offerAll FeatureModule.steadies).build.value =
          .ok registry ∧
        registry.Oblivious ∧
        ((empty ⟨false, true, false, true⟩).offerAll FeatureModule.steadies).build.value =
          .ok restricted ∧
        Registry.RestrictionSpec ⟨false, true, false, true⟩ registry restricted := by
  have hsubset : FeatureSet.Subset ⟨false, true, false, true⟩ ⟨true, true, false, true⟩ := by
    unfold FeatureSet.Subset
    decide
  have hsound : Sound ((empty ⟨true, true, false, true⟩).offerAll FeatureModule.steadies) := by
    unfold Sound
    decide
  obtain ⟨registry, hbuild⟩ := exists_build hsound
    (by intro c feature; cases c <;> cases feature <;> decide)
  obtain ⟨restricted, hrestricted, hspec⟩ :=
    switching_off_only_removes hsubset FeatureModule.steadies hbuild
  refine ⟨hsubset, registry, restricted, hbuild, oblivious_of_build ?_ hbuild, hrestricted, hspec⟩
  intro module hmem
  rw [offerAll_empty] at hmem
  have hoffered : module ∈ FeatureModule.steadies :=
    (FeatureModule.firstOfEach_sublist _).subset hmem
  simp only [FeatureModule.steadies, mem_cons, not_mem_nil, or_false] at hoffered
  rcases hoffered with rfl | rfl | rfl | rfl | rfl <;> exact FeatureModule.oblivious_steady

end Assembly

end MacDispatch
