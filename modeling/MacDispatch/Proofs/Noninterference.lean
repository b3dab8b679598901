import MacDispatch.Proofs.Assembling

/-! # Noninterference

Main statement: features that are off do not interfere with what is assembled. Modules that differ
only in those of features that are off build the same tables or have the same fault, and so do
registrations with others under such features put in between. -/

namespace MacDispatch

open List

variable {σ : Type}

/-- The optional features that are off. -/
def FeatureSet.off (features : FeatureSet) : List Feature :=
  ([(.csmaCa, features.csmaCa), (.ackTimeout, features.ackTimeout),
    (.delayedTrx, features.delayedTrx), (.ifs, features.ifs)].filter fun switch =>
      !switch.2).map Prod.fst

theorem Feature.isEnabledIn_iff_notMem_off {feature : Feature} {features : FeatureSet} :
    feature.isEnabledIn features = true ↔ feature ∉ features.off := by
  obtain ⟨csmaCa, ackTimeout, delayedTrx, ifs⟩ := features
  cases feature <;> simp [isEnabledIn, FeatureSet.off]

theorem FeatureModule.enabled_eq_filter_off (features : FeatureSet)
    (modules : List (FeatureModule σ)) :
    enabled features modules = modules.filter fun module => module.feature ∉ features.off := by
  refine filter_congr fun module _ => ?_
  rw [Bool.eq_iff_iff, decide_eq_true_iff]
  exact Feature.isEnabledIn_iff_notMem_off

/-! ## Registrations in between -/

/-- The second list is the first with registrations under features that are off put in anywhere. -/
inductive Registration.Padded (features : FeatureSet) :
    List (Registration σ) → List (Registration σ) → Prop
  | nil : Padded features [] []
  | keep (registration : Registration σ) {registrations padded : List (Registration σ)}
    (rest : Padded features registrations padded) :
    Padded features (registration :: registrations) (registration :: padded)
  | insert {registration : Registration σ} (off : registration.feature ∈ features.off)
    {registrations padded : List (Registration σ)} (rest : Padded features registrations padded) :
    Padded features registrations (registration :: padded)

namespace Draft

/-- A registration under a feature that is off leaves a draft as it was. -/
theorem value_register_of_off {draft : Draft σ} {registration : Registration σ}
    (h : registration.feature ∈ draft.features.off) :
    (draft.register registration).value = draft := by
  have hoff : ¬registration.feature.isEnabledIn draft.features = true := fun hon =>
    Feature.isEnabledIn_iff_notMem_off.mp hon h
  rw [register, if_neg hoff]

/-- Registrations under features that are off may be left out. -/
theorem value_registerAll_of_padded {draft : Draft σ} {features : FeatureSet}
    (hf : draft.features = features) {registrations padded : List (Registration σ)}
    (h : Registration.Padded features registrations padded) :
    (draft.registerAll padded).value = (draft.registerAll registrations).value := by
  induction h generalizing draft with
  | nil => rfl
  | keep registration _ ih =>
    rw [registerAll, registerAll, Traced.value_bind, Traced.value_bind]
    exact ih ((features_register draft registration).trans hf)
  | insert off _ ih =>
    rw [registerAll, Traced.value_bind, value_register_of_off (hf ▸ off)]
    exact ih hf

end Draft

namespace Assembly

/-! ## Modules of features that are off -/

/-- A build is settled by the modules whose feature is on. -/
theorem value_build_eq_of_enabled_eq {features : FeatureSet}
    {modules modules' : List (FeatureModule σ)}
    (h : FeatureModule.enabled features modules = FeatureModule.enabled features modules') :
    (build ⟨features, modules⟩).value = (build ⟨features, modules'⟩).value := by
  rw [value_build, value_build, h]

/-- Whatever is added, left out, moved or registered under features that are off, the same tables
are built or the same fault is found. -/
theorem noninterference (features : FeatureSet) :
    (∀ (modules modules' : List (FeatureModule σ)) (assembly assembly' : Assembly σ),
      ((empty features).addAll modules).value = .ok assembly →
      ((empty features).addAll modules').value = .ok assembly' →
      (modules.filter fun module => module.feature ∉ features.off) =
        modules'.filter (fun module => module.feature ∉ features.off) →
      assembly.build.value = assembly'.build.value) ∧
    ∀ draft : Draft σ, draft.features = features →
      ∀ registrations padded : List (Registration σ),
        Registration.Padded features registrations padded →
          (draft.registerAll padded).value.freeze =
            (draft.registerAll registrations).value.freeze := by
  constructor
  · intro modules modules' assembly assembly' hadd hadd' hsame
    obtain rfl : assembly = ⟨features, modules⟩ := eq_of_value_addAll hadd
    obtain rfl : assembly' = ⟨features, modules'⟩ := eq_of_value_addAll hadd'
    apply value_build_eq_of_enabled_eq
    rw [FeatureModule.enabled_eq_filter_off, FeatureModule.enabled_eq_filter_off, hsame]
  · intro draft hf registrations padded hpadded
    rw [Draft.value_registerAll_of_padded hf hpadded]

end Assembly

/-- The module of `Script.modules` that cannot be switched off, behind one that registers a hook
twice and then fails. -/
def Script.modulesAltered : List (FeatureModule (List Bool)) :=
  [module ⟨.delayedTrx, [.rxStarted, .rxStarted], fun _ => [], some (.internal "no clock", 2)⟩,
    module ⟨.txTimeout, [.terminate, .transmissionReady], fun _ => [false], none⟩]

/-- With nothing optional on, one of five hooks registered out of order is kept. -/
theorem Script.padded_outOfOrder :
    Registration.Padded .none [⟨.txTimeout, .terminate, hook _ [false]⟩] outOfOrder :=
  .keep _ (.insert (by decide) (.insert (by decide) (.insert (by decide)
    (.insert (by decide) .nil))))

namespace Assembly

/-- With nothing optional on, modules that fail and hooks that are registered twice do not show. -/
theorem noninterference_altered :
    (build ⟨.none, Script.modules⟩).value = (build ⟨.none, Script.modulesAltered⟩).value ∧
      Registry.ofRegistrations .none Script.outOfOrder =
        Registry.ofRegistrations .none [⟨.txTimeout, .terminate, Script.hook _ [false]⟩] :=
  ⟨(noninterference .none).1 Script.modules Script.modulesAltered _ _ rfl rfl rfl,
    congrArg Traced.value
      ((noninterference .none).2 (.empty .none) rfl _ _ Script.padded_outOfOrder)⟩

end Assembly

end MacDispatch
