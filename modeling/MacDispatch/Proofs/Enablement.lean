import MacDispatch.Proofs.Assembling
import MacDispatch.Proofs.Runs
import MacDispatch.Radio.Switches
import Mathlib.Data.List.Nodup

/-! # Enablement

Main statement: a hook is called only if its feature was asked for and is contained in the build,
or cannot be switched off. Such a hook on a broadcast channel is called every time. Switches that
were asked for in vain are warned of, and no others. -/

namespace MacDispatch

open List

variable {σ : Type}

namespace Switches

/-! ## Switches as a panel -/

/-- The switches in order of rank, each with whether it was asked for and whether the build
contains its feature. -/
def panel (switches : Switches) (compiled : FeatureSet) : List (Feature × Bool × Bool) :=
  [(.csmaCa, switches.csmaCa, compiled.csmaCa),
    (.ackTimeout, switches.ackTimeout, compiled.ackTimeout),
    (.delayedTrx, switches.delayedTrx, compiled.delayedTrx), (.ifs, switches.ifs, compiled.ifs)]

/-- The feature cannot be switched off, or its switch was asked for and its build contains it. -/
def Admits (switches : Switches) (compiled : FeatureSet) (feature : Feature) : Prop :=
  feature = .txTimeout ∨ (feature, true, true) ∈ switches.panel compiled

theorem isEnabledIn_masked_iff {switches : Switches} {compiled : FeatureSet} {feature : Feature} :
    feature.isEnabledIn (switches.masked compiled) = true ↔ switches.Admits compiled feature := by
  cases feature <;> simp [Feature.isEnabledIn, masked, Admits, panel]

/-- The panel has an entry for each feature that can be switched off. -/
theorem panel_eq (switches : Switches) (compiled : FeatureSet) :
    switches.panel compiled = (Feature.all.filter Feature.isOptional).map fun feature =>
      (feature, feature.isEnabledIn switches.asked, feature.isEnabledIn compiled) := rfl

/-- Every switch that was asked for in vain is warned of once, in order of rank. -/
theorem events_resolve (switches : Switches) (compiled : FeatureSet) :
    (switches.resolve compiled).events =
      ((switches.panel compiled).filter fun entry => entry.2.1 && !entry.2.2).map fun entry =>
        notCompiled entry.1 := by
  have hlost : switches.ineffective compiled =
      (Feature.all.filter Feature.isOptional).filter fun feature =>
        feature.isEnabledIn switches.asked && !feature.isEnabledIn compiled := by
    rw [filter_filter, ineffective]
    exact filter_congr fun feature _ => by rw [Bool.and_assoc, Bool.and_comm]
  rw [panel_eq, filter_map, map_map, resolve, hlost]
  rfl

/-- One switch is on in both places, one is not asked for, and one is asked for in vain. -/
example : (resolve ⟨true, false, false, true⟩ ⟨true, true, false, false⟩).events =
    [notCompiled .ifs] := rfl

end Switches

namespace Assembly

/-! ## Calls of what is built -/

/-- What becomes of the hooks of modules in runs of the registry built from them. -/
structure EnablementSpec (switches : Switches) (compiled : FeatureSet)
    (modules : List (FeatureModule σ)) (registry : Registry σ) : Prop where
  fired : ∀ signals, (registry.run signals).1.map Firing.signal = signals
  /-- Whoever is called is admitted, and answers by a hook that its module has on the channel. -/
  called : ∀ signals, ∀ firing ∈ (registry.run signals).1, ∀ call ∈ firing.calls,
    switches.Admits compiled call.feature ∧
      ∃ module ∈ modules, ∃ hook, module.feature = call.feature ∧
        ⟨firing.channel, hook⟩ ∈ module.hooks ∧
          ∃ state, call.answer = (hook.respond call.payload state).1
  /-- Whoever is admitted and has a hook on a broadcast channel is called once each time. -/
  told : ∀ signals, ∀ firing ∈ (registry.run signals).1, firing.channel.policy = .broadcast →
    ∀ module ∈ modules, ∀ hook, ⟨firing.channel, hook⟩ ∈ module.hooks →
      switches.Admits compiled module.feature → firing.features.count module.feature = 1
  /-- It is that hook of the module which goes from one state to the next. -/
  moved : ∀ (front : List Signal) (signal : Signal), signal.channel.policy = .broadcast →
    ∀ module ∈ modules, ∀ hook : Hook σ signal.channel, ⟨signal.channel, hook⟩ ∈ module.hooks →
      switches.Admits compiled module.feature →
        ∃ candidate ∈ (registry.run front).2.table signal.channel,
          candidate.role = (module.feature, hook.act) ∧
            candidate.answered signal.payload ∈
              (registry.run (front ++ [signal])).2.table signal.channel

/-- Lost switches are warned of, and what is built from modules under the others calls exactly
the hooks of features that are admitted. -/
theorem calls_only_admitted (switches : Switches) (compiled : FeatureSet) :
    (switches.resolve compiled).events =
        ((switches.panel compiled).filter fun entry => entry.2.1 && !entry.2.2).map
          (fun entry => Switches.notCompiled entry.1) ∧
      ∀ (modules : List (FeatureModule σ)) (assembly : Assembly σ) (registry : Registry σ),
        ((empty (switches.resolve compiled).value).addAll modules).value = .ok assembly →
          assembly.build.value = .ok registry →
            EnablementSpec switches compiled modules registry := by
  refine ⟨Switches.events_resolve switches compiled, ?_⟩
  intro modules assembly registry hadd hbuild
  obtain rfl : assembly = ⟨switches.masked compiled, modules⟩ := eq_of_value_addAll hadd
  have hlisted : ∀ c, ∀ module ∈ modules, ∀ hook, ⟨c, hook⟩ ∈ module.hooks →
      switches.Admits compiled module.feature → ⟨module.feature, hook⟩ ∈ registry.table c :=
    fun c module hmodule hook hhook hadmits => (mem_table_iff_of_build hbuild).mpr
      ⟨module, hmodule, Switches.isEnabledIn_masked_iff.mpr hadmits, rfl, hhook⟩
  refine ⟨registry.map_signal_run, ?_, ?_, ?_⟩
  · intro signals firing hfiring call hcall
    obtain ⟨candidate, hmem, hfeature, hanswer⟩ :=
      Registry.exists_mem_table_of_mem_calls hfiring hcall
    obtain ⟨module, hmodule, hon, hown, hhook⟩ := (mem_table_iff_of_build hbuild).mp hmem
    rw [hown, hfeature] at hon
    exact ⟨Switches.isEnabledIn_masked_iff.mp hon, module, hmodule, candidate.hook,
      hown.trans hfeature, hhook, hanswer⟩
  · intro signals firing hfiring hp module hmodule hook hhook hadmits
    have hmem : module.feature ∈ registry.candidates firing.channel :=
      mem_map_of_mem (f := Candidate.feature) (hlisted _ module hmodule hook hhook hadmits)
    rw [Registry.features_of_broadcast hfiring hp]
    exact count_eq_one_of_mem ((frozen_of_build hbuild).nodup_candidates _) hmem
  · intro front signal hp module hmodule hook hhook hadmits
    exact Registry.exists_answered_of_broadcast front hp
      (hlisted _ module hmodule hook hhook hadmits)

/-- A module that would fail is left out with its feature, and the others are built. -/
theorem calls_only_admitted_scripted :
    ∃ assembly registry,
      ((empty (Switches.resolve ⟨true, false, false, true⟩ ⟨true, true, false, false⟩).value).addAll
        Script.modules).value = .ok assembly ∧
      assembly.build.value = .ok registry ∧
        EnablementSpec ⟨true, false, false, true⟩ ⟨true, true, false, false⟩ Script.modules
          registry := by
  have hsound : Sound ⟨Switches.masked ⟨true, false, false, true⟩ ⟨true, true, false, false⟩,
      Script.modules⟩ := by
    unfold Sound
    decide
  obtain ⟨registry, hbuild⟩ := exists_build hsound
    (by intro c feature; cases c <;> cases feature <;> decide)
  exact ⟨_, registry, rfl, hbuild,
    (calls_only_admitted ⟨true, false, false, true⟩ ⟨true, true, false, false⟩).2 Script.modules _
      registry rfl hbuild⟩

end Assembly

end MacDispatch
