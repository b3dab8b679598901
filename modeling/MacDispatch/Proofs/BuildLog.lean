import MacDispatch.Proofs.Assembling
import MacDispatch.Proofs.Introspection
import Mathlib.Data.List.TakeWhile

/-! # The log of a build

Main statement: what the log tells of a build is what became of it. A missing guard is warned of,
modules that are off are told of up to the first module that fails, and a registry is told of
exactly if one was built, with its own numbers. No hook is ever told to have been dropped, as
modules that are off are not asked for any. -/

namespace MacDispatch

open List

variable {σ : Type}

/-! ## Modules that are reached -/

namespace FeatureModule

/-- Whether a build ends at the module. -/
def halts (features : FeatureSet) (module : FeatureModule σ) : Bool :=
  module.feature.isEnabledIn features && module.failure.isSome

/-- The modules before the first that is on and fails, or all of them if there is none. -/
def reached (features : FeatureSet) (modules : List (FeatureModule σ)) : List (FeatureModule σ) :=
  modules.takeWhile fun module => !module.halts features

variable {features : FeatureSet} {module : FeatureModule σ}

theorem halts_iff : module.halts features = true ↔
    module.feature.isEnabledIn features = true ∧ ∃ failure, module.failure = some failure := by
  rw [halts, Bool.and_eq_true, Option.isSome_iff_exists]

theorem halts_eq_false_iff : module.halts features = false ↔
    (module.feature.isEnabledIn features = true → module.failure = none) := by
  rw [halts]
  cases module.feature.isEnabledIn features <;> simp

/-- A module that is on and fails is where a build ends, if none does so before. -/
theorem reached_of_failing {front rest : List (FeatureModule σ)} {failure : Failure}
    (hfront : ∀ earlier ∈ front, earlier.feature.isEnabledIn features = true →
      earlier.failure = none)
    (hon : module.feature.isEnabledIn features = true) (hfail : module.failure = some failure) :
    reached features (front ++ module :: rest) = front := by
  have hpassed : ∀ earlier ∈ front, (!earlier.halts features) = true := by
    intro earlier hmem
    rw [halts_eq_false_iff.mpr (hfront earlier hmem), Bool.not_false]
  have hstop : (module :: rest).takeWhile (fun module => !module.halts features) = [] := by
    rw [takeWhile_cons, halts_iff.mpr ⟨hon, failure, hfail⟩]
    rfl
  rw [reached, takeWhile_append_of_pos hpassed, hstop, append_nil]

theorem reached_of_sound {modules : List (FeatureModule σ)}
    (h : ∀ module ∈ modules, module.feature.isEnabledIn features = true →
      module.failure = none) :
    reached features modules = modules := by
  apply takeWhile_eq_self_iff.mpr
  intro module hmem
  rw [halts_eq_false_iff.mpr (h module hmem), Bool.not_false]

end FeatureModule

/-! ## What modules cause to be told -/

/-- Under features that are on, registering goes unmentioned. -/
theorem Draft.events_registerAll_of_on {draft : Draft σ} {registrations : List (Registration σ)}
    (h : ∀ registration ∈ registrations,
      registration.feature.isEnabledIn draft.features = true) :
    (draft.registerAll registrations).events = [] := by
  induction registrations generalizing draft with
  | nil => rfl
  | cons registration rest ih =>
    obtain ⟨hfirst, hothers⟩ := forall_mem_cons.mp h
    have hregister : draft.register registration = ⟨draft.push registration, []⟩ := if_pos hfirst
    rw [registerAll, Traced.events_bind, hregister, nil_append]
    exact ih hothers

theorem FeatureModule.events_registerHooks_of_on {module : FeatureModule σ} {draft : Draft σ}
    (h : module.feature.isEnabledIn draft.features = true) :
    (module.registerHooks ⟨module.feature, draft⟩).events = [] := by
  rw [events_registerHooks]
  apply Draft.events_registerAll_of_on
  intro registration hmem
  obtain ⟨attachment, -, rfl⟩ := mem_map.mp hmem
  exact h

namespace Assembly

/-- Collecting tells of the modules that are off, as far as it comes. -/
theorem events_collect (draft : Draft σ) (modules : List (FeatureModule σ)) :
    (collect draft modules).events =
      ((FeatureModule.reached draft.features modules).filter fun module =>
        !module.feature.isEnabledIn draft.features).map fun module => skipped module.feature := by
  induction modules generalizing draft with
  | nil => rfl
  | cons module rest ih =>
    by_cases hon : module.feature.isEnabledIn draft.features = true
    · have hquiet := FeatureModule.events_registerHooks_of_on hon
      rw [collect, if_pos hon, Traced.events_bind, hquiet, nil_append,
        FeatureModule.value_registerHooks]
      cases hfail : module.failure with
      | some failure =>
        have hhalts : module.halts draft.features = true :=
          FeatureModule.halts_iff.mpr ⟨hon, failure, hfail⟩
        simp [FeatureModule.reached, hhalts]
      | none =>
        have hgoes : module.halts draft.features = false :=
          FeatureModule.halts_eq_false_iff.mpr fun _ => hfail
        simp only [ih, Draft.features_registerAll]
        simp [FeatureModule.reached, hgoes, hon]
    · have hoff : module.feature.isEnabledIn draft.features = false :=
        Bool.eq_false_iff.mpr hon
      have hgoes : module.halts draft.features = false :=
        FeatureModule.halts_eq_false_iff.mpr fun h => absurd h hon
      rw [collect, if_neg hon, Traced.events_bind, Traced.events_tell, ih]
      simp [FeatureModule.reached, hgoes, hoff]

/-- The only feature that can be found missing is the guard. -/
theorem missing_eq_of_guard (assembly : Assembly σ) :
    assembly.missing =
      if Feature.txTimeout ∈ assembly.modules.map FeatureModule.feature then []
      else [.txTimeout] := by
  have hhas : assembly.has .txTimeout =
      decide (Feature.txTimeout ∈ assembly.modules.map FeatureModule.feature) := by
    rw [Bool.eq_iff_iff, decide_eq_true_iff, has, any_eq_true, mem_map]
    simp only [beq_iff_eq]
  by_cases h : Feature.txTimeout ∈ assembly.modules.map FeatureModule.feature
  · rw [decide_eq_true h] at hhas
    simp [missing, Feature.all, Feature.isOptional, hhas, h]
  · rw [decide_eq_false h] at hhas
    simp [missing, Feature.all, Feature.isOptional, hhas, h]

/-! ## What is told of a build -/

/-- What is told before anything is known of the registry. -/
def preamble (assembly : Assembly σ) : List Event :=
  (if Feature.txTimeout ∈ assembly.modules.map FeatureModule.feature then []
    else [{ level := .warn
            target := "radio_mac_hooks::manager"
            message := "No module added for an always-present feature"
            fields := [("feature", .text "tx_timeout")] }]) ++
  ((FeatureModule.reached assembly.features assembly.modules).filter fun module =>
    !module.feature.isEnabledIn assembly.features).map fun module =>
      { level := .debug
        target := "radio_mac_hooks::manager"
        message := "Feature disabled, module skipped"
        fields := [("feature", .text module.feature.name)] }

/-- What is told of the registry that was built. -/
def announcement (registry : Registry σ) : List Event :=
  { level := .info
    target := "radio_mac_hooks::hooks::registry"
    message := "Hook registry frozen"
    fields := [("candidates", .count registry.total),
      ("optional_features", .count registry.features.count)] } ::
  registry.layout.map fun entry =>
    { level := .info
      target := "radio_mac_hooks::manager"
      message := "Channel assembled"
      fields := [("channel", .text entry.channel.name), ("policy", .text entry.policy.name),
        ("candidates",
          .text (Text.Outline.list (entry.candidates.map Vocabulary.outline)).inline)] }

theorem events_build (assembly : Assembly σ) :
    assembly.build.events = preamble assembly ++
      match assembly.build.value with
      | .ok registry => announcement registry
      | .error _ => [] := by
  have hwarned : assembly.missing.map unfilled =
      if Feature.txTimeout ∈ assembly.modules.map FeatureModule.feature then []
      else [unfilled .txTimeout] := by
    rw [missing_eq_of_guard]
    split <;> rfl
  have hpreamble : preamble assembly = assembly.missing.map unfilled ++
      (collect (.empty assembly.features) assembly.modules).events := by
    rw [hwarned, events_collect]
    rfl
  rw [hpreamble, build, Traced.events_bind, Traced.events_tell, append_assoc]
  congr 1
  rw [Traced.events_bind]
  simp only [Traced.value_bind]
  cases (collect (.empty assembly.features) assembly.modules).value with
  | error fault => rfl
  | ok draft =>
    simp only [Draft.freeze]
    cases draft.fault? with
    | some fault => rfl
    | none => rfl

/-- Each event of a build is of one of three kinds, and two of them only occur for a reason. -/
theorem cases_of_mem_events_build {assembly : Assembly σ} {event : Event}
    (h : event ∈ assembly.build.events) :
    (event.level = .warn ∧ event.message = "No module added for an always-present feature" ∧
        Feature.txTimeout ∉ assembly.modules.map FeatureModule.feature) ∨
      (event.level = .debug ∧ event.message = "Feature disabled, module skipped") ∨
      (event.level = .info ∧
        (event.message = "Hook registry frozen" ∨ event.message = "Channel assembled") ∧
        ∃ registry, assembly.build.value = .ok registry) := by
  rw [events_build, preamble] at h
  rcases mem_append.mp h with hbefore | hafter
  · rcases mem_append.mp hbefore with hwarned | hskipped
    · split at hwarned
      · cases hwarned
      · rename_i hmissing
        obtain rfl := mem_singleton.mp hwarned
        exact .inl ⟨rfl, rfl, hmissing⟩
    · obtain ⟨module, -, rfl⟩ := mem_map.mp hskipped
      exact .inr (.inl ⟨rfl, rfl⟩)
  · right
    right
    cases hvalue : assembly.build.value with
    | error fault =>
      rw [hvalue] at hafter
      cases hafter
    | ok registry =>
      rw [hvalue] at hafter
      rcases mem_cons.mp hafter with rfl | hentry
      · exact ⟨rfl, .inl rfl, registry, rfl⟩
      · obtain ⟨entry, -, rfl⟩ := mem_map.mp hentry
        exact ⟨rfl, .inr rfl, registry, rfl⟩

/-- A build warns exactly if there is no guard. -/
theorem exists_warn_iff {assembly : Assembly σ} :
    (∃ event ∈ assembly.build.events, event.level = .warn) ↔
      Feature.txTimeout ∉ assembly.modules.map FeatureModule.feature := by
  constructor
  · rintro ⟨event, hmem, hlevel⟩
    rcases cases_of_mem_events_build hmem with ⟨-, -, hmissing⟩ | ⟨hdebug, -⟩ | ⟨hinfo, -, -⟩
    · exact hmissing
    · cases hlevel.symm.trans hdebug
    · cases hlevel.symm.trans hinfo
  · intro hmissing
    rw [events_build, preamble, if_neg hmissing, append_assoc]
    exact ⟨_, mem_cons_self, rfl⟩

/-- A build announces something exactly if there is a registry. -/
theorem exists_info_iff {assembly : Assembly σ} :
    (∃ event ∈ assembly.build.events, event.level = .info) ↔
      ∃ registry, assembly.build.value = .ok registry := by
  constructor
  · rintro ⟨event, hmem, hlevel⟩
    rcases cases_of_mem_events_build hmem with ⟨hwarn, -, -⟩ | ⟨hdebug, -⟩ | ⟨-, -, hbuilt⟩
    · cases hlevel.symm.trans hwarn
    · cases hlevel.symm.trans hdebug
    · exact hbuilt
  · rintro ⟨registry, hbuilt⟩
    rw [events_build, hbuilt]
    exact ⟨_, mem_append_right _ mem_cons_self, rfl⟩

/-- What the log tells of a build, in terms of the modules and of what was built. -/
structure BuildLogSpec (assembly : Assembly σ)
    (result : Traced (Except AssemblyFault (Registry σ))) : Prop where
  failed : ∀ fault, result.value = .error fault → result.events = assembly.preamble
  built : ∀ registry, result.value = .ok registry →
    result.events = assembly.preamble ++ announcement registry ∧
      registry.features = assembly.features ∧ registry.layout.length = 9 ∧
        registry.layout.map ChannelLayout.channel = Channel.all
  /-- Modules are told of up to the first that is on and fails. -/
  reached_of_failing : ∀ front module rest failure,
    assembly.modules = front ++ module :: rest →
    (∀ earlier ∈ front, earlier.feature.isEnabledIn assembly.features = true →
      earlier.failure = none) →
    module.feature.isEnabledIn assembly.features = true → module.failure = some failure →
      FeatureModule.reached assembly.features assembly.modules = front
  reached_of_sound : assembly.Sound →
    FeatureModule.reached assembly.features assembly.modules = assembly.modules
  warned_iff : (∃ event ∈ result.events, event.level = .warn) ↔
    Feature.txTimeout ∉ assembly.modules.map FeatureModule.feature
  announced_iff : (∃ event ∈ result.events, event.level = .info) ↔
    ∃ registry, result.value = .ok registry
  never_dropped : ∀ event ∈ result.events,
    event.message ≠ "Feature disabled, hook not registered"

/-- Whatever its modules do, a build is told of in the log as it goes. -/
theorem log_matches_outcome (assembly : Assembly σ) : BuildLogSpec assembly assembly.build where
  failed fault h := by
    rw [events_build, h, append_nil]
  built registry h := by
    have hlength : registry.layout.length = 9 := by rw [Registry.layout, length_map]; rfl
    refine ⟨?_, ?_, hlength, registry.map_channel_layout⟩
    · rw [events_build, h]
    · exact (Registry.tablesSpec_of_eq_ok (ofRegistrations_of_build h)).features_eq
  reached_of_failing front module rest failure hsplit hfront hon hfail := by
    rw [hsplit]
    exact FeatureModule.reached_of_failing hfront hon hfail
  reached_of_sound hsound := FeatureModule.reached_of_sound hsound
  warned_iff := exists_warn_iff
  announced_iff := exists_info_iff
  never_dropped event hmem := by
    rcases cases_of_mem_events_build hmem with
      ⟨-, hmessage, -⟩ | ⟨-, hmessage⟩ | ⟨-, hmessage | hmessage, -⟩ <;>
    · rw [hmessage]
      decide

end Assembly

end MacDispatch
