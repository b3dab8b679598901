import MacDispatch.Proofs.Frozen
import MacDispatch.Proofs.Rearrangement
import Mathlib.Data.List.Nodup

/-! # Assembling

Main statement: building from modules comes to registering the hooks of those that are on, one
module after another and each hook under its module's own feature. A module that fails is told of
before any feature that has too many hooks. -/

namespace MacDispatch

open List

variable {σ : Type}

namespace FeatureModule

/-- The first module that fails settles the fault. -/
theorem findSome?_fault?_of_failure {front : List (FeatureModule σ)} {module : FeatureModule σ}
    {failure : Failure} (hfront : ∀ earlier ∈ front, earlier.failure = none)
    (hfail : module.failure = some failure) (rest : List (FeatureModule σ)) :
    (front ++ module :: rest).findSome? fault? =
      some (.registration module.feature failure.message) := by
  have hnone : front.findSome? fault? = none := by
    refine findSome?_eq_none_iff.mpr fun earlier hmem => ?_
    rw [fault?, hfront earlier hmem, Option.map_none]
  have hsome : module.fault? = some (.registration module.feature failure.message) := by
    rw [fault?, hfail, Option.map_some]
  rw [findSome?_append, hnone, Option.none_or, findSome?_cons, hsome]

end FeatureModule

namespace Assembly

/-! ## Building from modules -/

/-- What is built from modules, in terms of the hooks that they register and of the failures in
which they end. -/
structure BuildSpec (features : FeatureSet) (modules : List (FeatureModule σ))
    (assembly : Assembly σ) : Prop where
  /-- The first module that is on and fails is told of, whatever was registered before. -/
  failing : ∀ front module rest failure,
    modules.filter (·.feature.isEnabledIn features) = front ++ module :: rest →
    (∀ earlier ∈ front, earlier.failure = none) → module.failure = some failure →
      ∃ fault, assembly.build.value = .error fault ∧ fault.failure =
        ⟨.validation, "feature '" ++ module.feature.name ++ "' failed to register hooks: " ++
          failure.message, none⟩
  /-- Without such a module, the hooks are registered as if by hand. -/
  direct : (∀ module ∈ modules, module.feature.isEnabledIn features = true →
      module.failure = none) →
    assembly.build.value =
      ((Draft.empty features).registerAll
        ((modules.filter (·.feature.isEnabledIn features)).flatMap fun module =>
          module.hooks.map fun attachment =>
            ⟨module.feature, attachment.channel, attachment.hook⟩)).value.freeze.value

/-- Modules that were all added are built by registering their hooks one after another. -/
theorem build_agrees_with_registering {features : FeatureSet} {modules : List (FeatureModule σ)}
    {assembly : Assembly σ} (h : ((empty features).addAll modules).value = .ok assembly) :
    BuildSpec features modules assembly := by
  obtain rfl : assembly = ⟨features, modules⟩ := eq_of_value_addAll h
  constructor
  · intro front module rest failure hsplit hfront hfail
    refine ⟨.registration module.feature failure.message, ?_, rfl⟩
    rw [value_build, FeatureModule.enabled, hsplit,
      FeatureModule.findSome?_fault?_of_failure hfront hfail]
  · intro h
    have hsound : Sound ⟨features, modules⟩ := h
    rw [value_build, sound_iff.mp hsound]
    rfl

/-- With everything on, the second of three modules fails. With nothing optional on it is never
asked, and the build comes to the hooks of the first module. -/
theorem build_agrees_with_registering_scripted :
    (((empty .all).addAll Script.modules).value = .ok ⟨.all, Script.modules⟩ ∧
      ∃ fault, (build ⟨.all, Script.modules⟩).value = .error fault ∧
        fault.failure = .validation "feature 'ifs' failed to register hooks: no timer") ∧
    ((empty .none).addAll Script.modules).value = .ok ⟨.none, Script.modules⟩ ∧
      (build ⟨.none, Script.modules⟩).value = Registry.ofRegistrations .none
        [⟨.txTimeout, .terminate, Script.hook _ [false]⟩,
          ⟨.txTimeout, .transmissionReady, Script.hook _ [false]⟩] := by
  have hall : ((empty .all).addAll Script.modules).value = .ok ⟨.all, Script.modules⟩ := rfl
  have hnone : ((empty .none).addAll Script.modules).value = .ok ⟨.none, Script.modules⟩ := rfl
  refine ⟨⟨hall, ?_⟩, hnone, ?_⟩
  · exact (build_agrees_with_registering hall).failing [_] _ _ _ rfl (by decide) rfl
  · exact (build_agrees_with_registering hnone).direct (by decide)

/-! ## The tables of what is built -/

theorem ofRegistrations_of_build {assembly : Assembly σ} {registry : Registry σ}
    (h : assembly.build.value = .ok registry) :
    Registry.ofRegistrations assembly.features
      ((FeatureModule.enabled assembly.features assembly.modules).flatMap
        FeatureModule.registrations) = .ok registry := by
  rw [value_build] at h
  split at h
  · cases h
  · exact h

/-- Modules that do not fail, and register no hook of theirs twice, are built. -/
theorem exists_build {assembly : Assembly σ} (hsound : assembly.Sound)
    (honce : ∀ c feature, feature.isEnabledIn assembly.features = true →
      Registration.tally ((FeatureModule.enabled assembly.features assembly.modules).flatMap
        FeatureModule.registrations) feature c ≤ 1) :
    ∃ registry, assembly.build.value = .ok registry := by
  rw [← Draft.nodup_pending_ofRegistrations_iff] at honce
  rw [value_build, sound_iff.mp hsound]
  exact ⟨_, Draft.freeze_eq_ok_iff.mpr ⟨honce, rfl⟩⟩

/-- Modules of distinct features, each with at most one hook on a channel, register none twice. -/
theorem tally_registrations_le_one {modules : List (FeatureModule σ)}
    (hmodules : (modules.map FeatureModule.feature).Nodup)
    (hhooks : ∀ module ∈ modules, (module.hooks.map Attachment.channel).Nodup) (feature : Feature)
    (c : Channel) :
    Registration.tally (modules.flatMap FeatureModule.registrations) feature c ≤ 1 := by
  have hplaces : ((modules.flatMap FeatureModule.registrations).map fun registration =>
      (registration.feature, registration.channel)) =
        modules.flatMap fun module => (module.hooks.map Attachment.channel).map fun c =>
          (module.feature, c) := by
    rw [map_flatMap]
    refine flatMap_congr fun module _ => ?_
    rw [FeatureModule.registrations, map_map, map_map]
    rfl
  have hnodup : (modules.flatMap fun module => (module.hooks.map Attachment.channel).map fun c =>
      (module.feature, c)).Nodup := by
    refine nodup_flatMap.mpr ⟨fun module hmem => ?_, ?_⟩
    · exact (hhooks module hmem).map fun _ _ h => (Prod.mk.inj h).2
    · refine (pairwise_map.mp hmodules).imp fun hne place h h' => ?_
      obtain ⟨_, -, rfl⟩ := mem_map.mp h
      obtain ⟨_, -, he⟩ := mem_map.mp h'
      exact hne (congrArg Prod.fst he).symm
  have htally : Registration.tally (modules.flatMap FeatureModule.registrations) feature c =
      ((modules.flatMap FeatureModule.registrations).map fun registration =>
        (registration.feature, registration.channel)).count (feature, c) := by
    rw [count_eq_countP, countP_map]
    rfl
  rw [htally, hplaces]
  exact nodup_iff_count_le_one.mp hnodup _

theorem frozen_of_build {assembly : Assembly σ} {registry : Registry σ}
    (h : assembly.build.value = .ok registry) : registry.Frozen :=
  ⟨_, _, ofRegistrations_of_build h⟩

/-- On the tables of what is built stand the hooks of the modules that are on. -/
theorem mem_table_iff_of_build {assembly : Assembly σ} {registry : Registry σ}
    (h : assembly.build.value = .ok registry) {c : Channel} {candidate : Candidate σ c} :
    candidate ∈ registry.table c ↔
      ∃ module ∈ assembly.modules, module.feature.isEnabledIn assembly.features = true ∧
        module.feature = candidate.feature ∧ ⟨c, candidate.hook⟩ ∈ module.hooks := by
  have hspec := Registry.tablesSpec_of_eq_ok (ofRegistrations_of_build h)
  rw [← mem_map_of_injective Candidate.registration_injective, (hspec.perm c).mem_iff, mem_filter,
    mem_flatMap]
  simp only [FeatureModule.enabled, mem_filter, FeatureModule.registrations, mem_map]
  constructor
  · rintro ⟨⟨module, ⟨hmem, hon⟩, ⟨d, hook⟩, hhook, he⟩, -⟩
    obtain ⟨feature, own⟩ := candidate
    cases he
    exact ⟨module, hmem, hon, rfl, hhook⟩
  · rintro ⟨module, hmem, hon, hfeature, hhook⟩
    refine ⟨⟨module, ⟨hmem, hon⟩, ⟨c, candidate.hook⟩, hhook, ?_⟩, ?_⟩
    · rw [Attachment.under, hfeature]
      rfl
    · rw [hfeature] at hon
      simp [Registration.joins, Candidate.registration, hon]

end Assembly

end MacDispatch
