import MacDispatch.Dispatch.Assembly
import MacDispatch.Proofs.Tables

/-! # Collecting

Modules of distinct features are all added. A build stops at the first module that is on and
fails; otherwise it freezes the registrations of all modules that are on, one after another. -/

namespace MacDispatch

open List

variable {σ : Type}

/-- The fault that a module ends in, if it fails. -/
def FeatureModule.fault? (module : FeatureModule σ) : Option AssemblyFault :=
  module.failure.map fun failure => .registration module.feature failure.message

/-- The modules whose feature is on, in order. -/
def FeatureModule.enabled (features : FeatureSet) (modules : List (FeatureModule σ)) :
    List (FeatureModule σ) :=
  modules.filter (·.feature.isEnabledIn features)

namespace Assembly

/-! ## Adding -/

theorem value_add_of_not_has {assembly : Assembly σ} {module : FeatureModule σ}
    (h : module.feature ∉ assembly.modules.map FeatureModule.feature) :
    (assembly.add module).value =
      (.ok (), { assembly with modules := assembly.modules ++ [module] }) := by
  have hno : assembly.has module.feature = false := by
    rw [has, any_eq_false]
    intro other hmem he
    exact h (mem_map.mpr ⟨other, hmem, beq_iff_eq.mp he⟩)
  rw [add, hno]
  rfl

/-- A module that is refused leaves the assembly as it was. -/
theorem value_add_of_has {assembly : Assembly σ} {module : FeatureModule σ}
    (h : module.feature ∈ assembly.modules.map FeatureModule.feature) :
    (assembly.add module).value = (.error (.repeatedModule module.feature), assembly) := by
  obtain ⟨other, hmem, he⟩ := mem_map.mp h
  have hyes : assembly.has module.feature = true :=
    any_eq_true.mpr ⟨other, hmem, beq_iff_eq.mpr he⟩
  rw [add, hyes]
  rfl

theorem value_withModule (assembly : Assembly σ) (module : FeatureModule σ) :
    (assembly.withModule module).value =
      (assembly.add module).value.1.map fun _ => (assembly.add module).value.2 := rfl

/-- Modules of distinct features are all added, in order. -/
theorem value_addAll_of_nodup {assembly : Assembly σ} {modules : List (FeatureModule σ)}
    (h : ((assembly.modules ++ modules).map FeatureModule.feature).Nodup) :
    (assembly.addAll modules).value =
      .ok { assembly with modules := assembly.modules ++ modules } := by
  induction modules generalizing assembly with
  | nil => simp [addAll]
  | cons module rest ih =>
    have hnew : module.feature ∉ assembly.modules.map FeatureModule.feature := by
      intro hmem
      rw [map_append, nodup_append] at h
      exact h.2.2 _ hmem _ (mem_map_of_mem mem_cons_self) rfl
    let grown : Assembly σ := { assembly with modules := assembly.modules ++ [module] }
    have hrest : (grown.addAll rest).value =
        .ok { assembly with modules := assembly.modules ++ [module] ++ rest } :=
      ih (by simpa [grown] using h)
    rw [addAll, Traced.value_bind, value_withModule, value_add_of_not_has hnew]
    simpa [grown, Except.map] using hrest

/-- Modules that are all added stand in the order in which they came. -/
theorem eq_of_value_addAll {assembly grown : Assembly σ} {modules : List (FeatureModule σ)}
    (h : (assembly.addAll modules).value = .ok grown) :
    grown = { assembly with modules := assembly.modules ++ modules } := by
  induction modules generalizing assembly with
  | nil =>
    cases h
    simp
  | cons module rest ih =>
    rw [addAll, Traced.value_bind, value_withModule] at h
    by_cases hnew : module.feature ∈ assembly.modules.map FeatureModule.feature
    · rw [value_add_of_has hnew] at h
      cases h
    · rw [value_add_of_not_has hnew] at h
      simpa using ih h

/-! ## Collecting -/

/-- Collecting fails with the first module that is on and fails; otherwise it takes every
registration of the modules that are on. -/
theorem value_collect (draft : Draft σ) (modules : List (FeatureModule σ)) :
    (collect draft modules).value =
      match (FeatureModule.enabled draft.features modules).findSome? FeatureModule.fault? with
      | some fault => .error fault
      | none => .ok (draft.registerAll
          ((FeatureModule.enabled draft.features modules).flatMap
            FeatureModule.registrations)).value := by
  induction modules generalizing draft with
  | nil => rfl
  | cons module rest ih =>
    by_cases hon : module.feature.isEnabledIn draft.features = true
    · have henabled : FeatureModule.enabled draft.features (module :: rest) =
          module :: FeatureModule.enabled draft.features rest := by
        simp [FeatureModule.enabled, hon]
      rw [collect, if_pos hon, henabled, findSome?_cons, flatMap_cons, Draft.registerAll_append,
        Traced.value_bind, FeatureModule.value_registerHooks, ← FeatureModule.registrations]
      cases hfail : module.failure with
      | some failure => simp [FeatureModule.fault?, hfail]
      | none => simp only [FeatureModule.fault?, hfail, Option.map_none, ih,
          Draft.features_registerAll]
    · have henabled : FeatureModule.enabled draft.features (module :: rest) =
          FeatureModule.enabled draft.features rest := by
        simp [FeatureModule.enabled, hon]
      rw [collect, if_neg hon, henabled, Traced.value_bind, ih]

/-! ## Building -/

/-- A build fails with the first module that is on and fails; otherwise it comes to what the
registrations of the modules that are on freeze into. -/
theorem value_build (assembly : Assembly σ) :
    assembly.build.value =
      match (FeatureModule.enabled assembly.features assembly.modules).findSome?
        FeatureModule.fault? with
      | some fault => .error fault
      | none => Registry.ofRegistrations assembly.features
          ((FeatureModule.enabled assembly.features assembly.modules).flatMap
            FeatureModule.registrations) := by
  simp only [build, Traced.value_bind, value_collect, Draft.features_empty]
  cases (FeatureModule.enabled assembly.features assembly.modules).findSome?
    FeatureModule.fault? with
  | some fault => rfl
  | none =>
    simp only [Registry.ofRegistrations, Draft.ofRegistrations, Traced.value_bind]
    cases ((Draft.empty assembly.features).registerAll
      ((FeatureModule.enabled assembly.features assembly.modules).flatMap
        FeatureModule.registrations)).value.freeze.value <;> rfl

end Assembly

end MacDispatch
