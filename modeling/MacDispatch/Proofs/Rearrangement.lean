import MacDispatch.Proofs.Collecting

/-! # Rearrangement

Main statement: the order of registrations does not matter, for the tables and for the fault that
is found in them. Nor does the order of modules with distinct features, except for which of
several failing modules is told of. -/

namespace MacDispatch

open List

variable {σ : Type}

namespace Draft

/-! ## Drafts with the same candidates -/

theorem ranked_perm_of_perm {draft draft' : Draft σ} {c : Channel}
    (h : draft.pending c ~ draft'.pending c) : draft.ranked c ~ draft'.ranked c :=
  ((draft.ranked_perm c).trans h).trans (draft'.ranked_perm c).symm

/-- Candidates in another order repeat the same feature first. -/
theorem repeated?_eq_of_perm {draft draft' : Draft σ} {c : Channel}
    (h : draft.pending c ~ draft'.pending c) : draft.repeated? c = draft'.repeated? c := by
  have hfeatures : (draft.ranked c).map Candidate.feature =
      (draft'.ranked c).map Candidate.feature :=
    Feature.eq_of_perm_of_ranked ((ranked_perm_of_perm h).map _) (draft.pairwise_ranked c)
      (draft'.pairwise_ranked c)
  rw [repeated?, repeated?, hfeatures]

/-- Without a feature twice, candidates in another order are ranked into the same table. -/
theorem ranked_eq_of_perm {draft draft' : Draft σ} {c : Channel}
    (h : draft.pending c ~ draft'.pending c)
    (hn : ((draft.pending c).map Candidate.feature).Nodup) :
    draft.ranked c = draft'.ranked c := by
  have hn' : ((draft'.pending c).map Candidate.feature).Nodup := (h.map _).nodup_iff.mp hn
  exact Candidate.eq_of_perm_of_ranked (ranked_perm_of_perm h)
    (pairwise_ranked_of_nodup hn) (pairwise_ranked_of_nodup hn')

/-- Drafts with the same candidates freeze into the same tables, or have the same fault. -/
theorem freeze_eq_of_perm {draft draft' : Draft σ} (hf : draft.features = draft'.features)
    (h : ∀ c, draft.pending c ~ draft'.pending c) :
    draft.freeze.value = draft'.freeze.value := by
  have hfault : draft.fault? = draft'.fault? := by
    simp only [fault?, repeated?_eq_of_perm (h _)]
  rw [value_freeze, value_freeze, ← hfault]
  cases hnone : draft.fault? with
  | some fault => rfl
  | none =>
    have hn := draft.fault?_eq_none_iff.mp hnone
    have hranked : draft.ranked = draft'.ranked :=
      funext fun c => ranked_eq_of_perm (h c) (hn c)
    simp only [tables, hf, hranked]

theorem pending_ofRegistrations_perm {registrations registrations' : List (Registration σ)}
    (h : registrations ~ registrations') (features : FeatureSet) (c : Channel) :
    (ofRegistrations features registrations).pending c ~
      (ofRegistrations features registrations').pending c := by
  rw [← map_perm_map_iff Candidate.registration_injective, map_pending_ofRegistrations,
    map_pending_ofRegistrations]
  exact h.filter _

end Draft

/-- Registrations in another order freeze into the same tables, or have the same fault. -/
theorem Registry.ofRegistrations_perm {registrations registrations' : List (Registration σ)}
    (h : registrations ~ registrations') (features : FeatureSet) :
    ofRegistrations features registrations = ofRegistrations features registrations' :=
  Draft.freeze_eq_of_perm (by simp) (Draft.pending_ofRegistrations_perm h features)

namespace Assembly

/-! ## Assemblies of the same modules -/

/-- No module whose feature is on fails. -/
def Sound (assembly : Assembly σ) : Prop :=
  ∀ module ∈ assembly.modules, module.feature.isEnabledIn assembly.features = true →
    module.failure = none

theorem sound_iff {assembly : Assembly σ} :
    assembly.Sound ↔
      (FeatureModule.enabled assembly.features assembly.modules).findSome?
        FeatureModule.fault? = none := by
  simp only [Sound, findSome?_eq_none_iff, FeatureModule.enabled, mem_filter, and_imp,
    FeatureModule.fault?, Option.map_eq_none_iff]

/-- A module that is on and fails makes the build fail. -/
theorem build_ne_ok_of_not_sound {assembly : Assembly σ} (h : ¬assembly.Sound)
    (registry : Registry σ) : assembly.build.value ≠ .ok registry := by
  rw [sound_iff] at h
  obtain ⟨fault, hfault⟩ := Option.ne_none_iff_exists'.mp h
  simp [value_build, hfault]

/-- Without a failing module, the order of modules does not matter to the build. -/
theorem build_eq_of_perm {features : FeatureSet} {modules modules' : List (FeatureModule σ)}
    (hp : modules ~ modules') (h : Sound ⟨features, modules⟩) :
    (build ⟨features, modules⟩).value = (build ⟨features, modules'⟩).value := by
  have h' : Sound ⟨features, modules'⟩ := fun module hmem => h module (hp.mem_iff.mpr hmem)
  rw [value_build, value_build, sound_iff.mp h, sound_iff.mp h']
  exact Registry.ofRegistrations_perm ((hp.filter _).flatMap_right _) features

/-- Two assemblies build engines that cannot be told apart, or both fail. -/
structure BuildsAlike (assembly assembly' : Assembly σ) : Prop where
  ok_iff : (∃ registry, assembly.build.value = .ok registry) ↔
    ∃ registry, assembly'.build.value = .ok registry
  run_eq : ∀ registry registry', assembly.build.value = .ok registry →
    assembly'.build.value = .ok registry' →
      ∀ signals, (registry.run signals).1 = (registry'.run signals).1
  failure_eq : assembly.Sound → ∀ fault fault', assembly.build.value = .error fault →
    assembly'.build.value = .error fault' → fault.failure = fault'.failure

theorem buildsAlike_of_perm {features : FeatureSet} {modules modules' : List (FeatureModule σ)}
    (hp : modules ~ modules') : BuildsAlike ⟨features, modules⟩ ⟨features, modules'⟩ := by
  by_cases h : Sound ⟨features, modules⟩
  · have hbuild := build_eq_of_perm hp h
    refine ⟨by rw [hbuild], ?_, ?_⟩
    · intro registry registry' hok hok' signals
      rw [hbuild, hok'] at hok
      cases hok
      rfl
    · intro _ fault fault' hno hno'
      rw [hbuild, hno'] at hno
      cases hno
      rfl
  · have h' : ¬Sound ⟨features, modules'⟩ := fun hs =>
      h fun module hmem => hs module (hp.mem_iff.mp hmem)
    refine ⟨?_, ?_, fun hs => absurd hs h⟩
    · constructor
      · exact fun ⟨registry, hok⟩ => absurd hok (build_ne_ok_of_not_sound h registry)
      · exact fun ⟨registry, hok⟩ => absurd hok (build_ne_ok_of_not_sound h' registry)
    · exact fun registry _ hok => absurd hok (build_ne_ok_of_not_sound h registry)

/-- Registrations, and modules with distinct features, may come in any order. -/
theorem order_irrelevant (features : FeatureSet) :
    (∀ registrations registrations' : List (Registration σ), registrations ~ registrations' →
      Registry.ofRegistrations features registrations =
        Registry.ofRegistrations features registrations') ∧
    ∀ modules modules' : List (FeatureModule σ), modules ~ modules' →
      (modules.map FeatureModule.feature).Nodup →
        ∃ assembly assembly', ((empty features).addAll modules).value = .ok assembly ∧
          ((empty features).addAll modules').value = .ok assembly' ∧
            BuildsAlike assembly assembly' := by
  refine ⟨fun _ _ hp => Registry.ofRegistrations_perm hp features, ?_⟩
  intro modules modules' hp hn
  have hn' : (modules'.map FeatureModule.feature).Nodup := (hp.map _).nodup_iff.mp hn
  exact ⟨⟨features, modules⟩, ⟨features, modules'⟩, value_addAll_of_nodup hn,
    value_addAll_of_nodup hn', buildsAlike_of_perm hp⟩

end Assembly

/-- Three modules, one of which fails midway if it is on. -/
def Script.modules : List (FeatureModule (List Bool)) :=
  [module ⟨.txTimeout, [.terminate, .transmissionReady], fun _ => [false], none⟩,
    module ⟨.ifs, [.terminate, .transmitted], fun _ => [], some (.internal "no timer", 1)⟩,
    module ⟨.csmaCa, [.terminate, .txFailed], fun _ => [true, false], none⟩]

/-- Switches with which two of the modules register their hooks. -/
def Script.switches : FeatureSet := { FeatureSet.none with csmaCa := true }

namespace Assembly

/-- Backwards, the same hooks have the same fault and the same modules build alike, whether one of
them fails or not. -/
theorem order_irrelevant_reverse :
    Registry.ofRegistrations .all Script.outOfOrder =
        Registry.ofRegistrations .all Script.outOfOrder.reverse ∧
      (∃ assembly assembly', ((empty Script.switches).addAll Script.modules).value = .ok assembly ∧
        ((empty Script.switches).addAll Script.modules.reverse).value = .ok assembly' ∧
          BuildsAlike assembly assembly') ∧
      ∃ assembly assembly', ((empty .all).addAll Script.modules).value = .ok assembly ∧
        ((empty .all).addAll Script.modules.reverse).value = .ok assembly' ∧
          BuildsAlike assembly assembly' :=
  ⟨(order_irrelevant .all).1 _ _ (reverse_perm _).symm,
    (order_irrelevant Script.switches).2 _ _ (reverse_perm _).symm (by decide),
    (order_irrelevant .all).2 _ _ (reverse_perm _).symm (by decide)⟩

end Assembly

end MacDispatch
