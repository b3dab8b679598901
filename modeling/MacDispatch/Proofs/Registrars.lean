import MacDispatch.Proofs.Noninterference

/-! # Registrars

Main statement: what a module attaches through a registrar is registered under the feature of the
registrar, as if by hand, and stays registered when the module fails midway. The candidates of
other features are left as they were. -/

namespace MacDispatch

open List

variable {σ : Type}

namespace Draft

/-! ## What registering adds -/

/-- Registrations are put behind what is on a table, as far as they join it. -/
theorem exists_pending_registerAll (draft : Draft σ) (registrations : List (Registration σ))
    (c : Channel) :
    ∃ new, (draft.registerAll registrations).value.pending c = draft.pending c ++ new ∧
      new.map Candidate.registration = registrations.filter (·.joins draft.features c) := by
  obtain ⟨old, new, hsplit, hold, hnew⟩ :=
    map_eq_append_iff.mp (map_pending_registerAll draft registrations c)
  obtain rfl : old = draft.pending c :=
    map_injective_iff.mpr Candidate.registration_injective hold
  exact ⟨new, hsplit, hnew⟩

/-- Registrations under features that are off leave a draft as it was. -/
theorem value_registerAll_of_off {draft : Draft σ} {registrations : List (Registration σ)}
    (h : ∀ registration ∈ registrations, registration.feature ∈ draft.features.off) :
    (draft.registerAll registrations).value = draft := by
  induction registrations with
  | nil => rfl
  | cons registration rest ih =>
    rw [forall_mem_cons] at h
    rw [registerAll, Traced.value_bind, value_register_of_off h.1, ih h.2]

end Draft

namespace Registrar

/-! ## Hooks under one feature -/

variable {feature : Feature} {features : FeatureSet} {c : Channel}

/-- Under a feature that is on, hooks join the tables of their own channels. -/
theorem filter_joins_of_on (h : feature.isEnabledIn features = true)
    (hooks : List (Attachment σ)) :
    (hooks.map (·.under feature)).filter (·.joins features c) =
      (hooks.filter (·.channel == c)).map (·.under feature) := by
  rw [filter_map]
  congr 1
  refine filter_congr fun attachment _ => ?_
  simp [Registration.joins, Attachment.under, h]

/-- Whoever is registered with hooks under a feature has that feature and one of the hooks. -/
theorem own_of_mem_map_under {candidate : Candidate σ c} {hooks : List (Attachment σ)}
    (h : candidate.registration ∈ hooks.map (·.under feature)) :
    candidate.feature = feature ∧ ⟨c, candidate.hook⟩ ∈ hooks := by
  obtain ⟨⟨d, hook⟩, hmem, he⟩ := mem_map.mp h
  obtain ⟨own, ownHook⟩ := candidate
  cases he
  exact ⟨rfl, hmem⟩

/-- Hooks under a feature are put behind what is on the tables of their channels. -/
theorem exists_pending_map_under (draft : Draft σ) (feature : Feature)
    (hooks : List (Attachment σ)) (c : Channel) :
    ∃ new, (draft.registerAll (hooks.map (·.under feature))).value.pending c =
        draft.pending c ++ new ∧
      (∀ candidate ∈ new, candidate.feature = feature ∧ ⟨c, candidate.hook⟩ ∈ hooks) ∧
      (feature.isEnabledIn draft.features = true →
        new.map Candidate.registration =
          (hooks.filter (·.channel == c)).map (·.under feature)) := by
  obtain ⟨new, hpending, hnew⟩ :=
    draft.exists_pending_registerAll (hooks.map (·.under feature)) c
  refine ⟨new, hpending, fun candidate hmem => ?_, fun hon => ?_⟩
  · have hfilter : candidate.registration ∈
        (hooks.map (·.under feature)).filter (·.joins draft.features c) :=
      hnew ▸ mem_map_of_mem hmem
    exact own_of_mem_map_under (mem_of_mem_filter hfilter)
  · rw [hnew, filter_joins_of_on hon]

/-! ## Modules at work -/

/-- What a module leaves in a draft through the registrar of a feature. -/
structure ScopeSpec (feature : Feature) (module : FeatureModule σ) (draft later : Draft σ) :
    Prop where
  /-- The hooks might as well have been registered by hand. -/
  direct : later = (draft.registerAll (module.hooks.map fun attachment =>
    ⟨feature, attachment.channel, attachment.hook⟩)).value
  /-- It would have been told in the same events. -/
  told : (module.registerHooks ⟨feature, draft⟩).events =
    (draft.registerAll (module.hooks.map fun attachment =>
      ⟨feature, attachment.channel, attachment.hook⟩)).events
  /-- The candidates of other features are where they were. -/
  others : ∀ c, (later.pending c).filter (·.feature != feature) =
    (draft.pending c).filter (·.feature != feature)
  /-- Behind what was on a table stand the hooks that were attached to its channel. -/
  added : ∀ c, ∃ new, later.pending c = draft.pending c ++ new ∧
    (∀ candidate ∈ new, candidate.feature = feature ∧ ⟨c, candidate.hook⟩ ∈ module.hooks) ∧
    (feature.isEnabledIn draft.features = true →
      new.map Candidate.registration =
        (module.hooks.filter (·.channel == c)).map (·.under feature))
  off : feature.isEnabledIn draft.features = false → later = draft
  /-- Of a module that ends in another way, the same is frozen later. -/
  settled : ∀ other : FeatureModule σ, other.hooks = module.hooks → ∀ rest,
    ((other.registerHooks ⟨feature, draft⟩).value.2.draft.registerAll rest).value.freeze =
      (later.registerAll rest).value.freeze
  /-- What is frozen later are all registrations, those of the module in between. -/
  frozen : ∀ before rest, draft = Draft.ofRegistrations draft.features before →
    (later.registerAll rest).value.freeze.value = Registry.ofRegistrations draft.features
      (before ++ module.hooks.map (·.under feature) ++ rest)

/-- Whichever hooks a module attaches and however it ends, through the registrar of a feature it
reaches no slot of another. -/
theorem registerHooks_scoped (feature : Feature) (module : FeatureModule σ) (draft : Draft σ) :
    ∃ later, (module.registerHooks ⟨feature, draft⟩).value = (module.failure, ⟨feature, later⟩) ∧
      ScopeSpec feature module draft later := by
  refine ⟨_, module.value_registerHooks _, rfl, module.events_registerHooks _, fun c => ?_, fun c =>
    exists_pending_map_under draft feature module.hooks c, fun hoff => ?_, ?_, ?_⟩
  · obtain ⟨new, hpending, hown, -⟩ := exists_pending_map_under draft feature module.hooks c
    have hnone : new.filter (·.feature != feature) = [] :=
      filter_eq_nil_iff.mpr fun candidate hmem => by simp [(hown candidate hmem).1]
    rw [hpending, filter_append, hnone, append_nil]
  · refine Draft.value_registerAll_of_off (forall_mem_map.mpr fun attachment _ => ?_)
    by_contra hmem
    rw [← Feature.isEnabledIn_iff_notMem_off] at hmem
    exact Bool.false_ne_true (hoff.symm.trans hmem)
  · intro other hhooks rest
    rw [other.value_registerHooks, hhooks]
  · intro before rest hreached
    rw [Registry.ofRegistrations, Draft.ofRegistrations, Draft.registerAll_append,
      Draft.registerAll_append, ← Draft.ofRegistrations, ← hreached]

end Registrar

end MacDispatch
