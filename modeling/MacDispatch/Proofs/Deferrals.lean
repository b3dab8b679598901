import MacDispatch.Proofs.Reference
import Mathlib.Data.List.Induction

/-! # Deferred attempts

What a probe keeps at any time of a session: the continuation of the latest attempt, if the probe
vetoes and was asked to admit that attempt, and if it did not report since. -/

namespace MacDispatch

open List

/-! ## Continuations kept one after another -/

namespace Deferrals

variable {feature : Feature} {kept : List (Feature × Callback)}

theorem held_foldl_keep_of_ne (h : ∀ entry ∈ kept, entry.1 ≠ feature) (deferrals : Deferrals) :
    (kept.foldl (fun held entry => held.keep entry.1 entry.2) deferrals).held feature =
      deferrals.held feature := by
  induction kept generalizing deferrals with
  | nil => rfl
  | cons entry rest ih =>
    obtain ⟨hentry, hrest⟩ := forall_mem_cons.mp h
    rw [foldl_cons, ih hrest, held_keep_of_ne _ hentry.symm]

/-- The latest continuation counts. -/
theorem held_foldl_keep_of_forall {callback : Callback} (hne : kept ≠ [])
    (h : ∀ entry ∈ kept, entry = (feature, callback)) (deferrals : Deferrals) :
    (kept.foldl (fun held entry => held.keep entry.1 entry.2) deferrals).held feature =
      some callback := by
  obtain ⟨front, last, rfl⟩ := (eq_nil_or_concat' kept).resolve_left hne
  obtain rfl := h last (by simp)
  rw [foldl_append, foldl_cons, foldl_nil, held_keep_self]

end Deferrals

theorem Signal.exists_attempt {signal : Signal} (h : signal.channel = .preTransmission) :
    ∃ attempt : Attempt, signal = ⟨.preTransmission, attempt⟩ := by
  obtain ⟨c, payload⟩ := signal
  obtain rfl : c = .preTransmission := h
  exact ⟨payload, rfl⟩

/-! ## What a dispatch to probes leaves behind -/

namespace Probe

variable {features : FeatureSet} {veto : Option Feature} {feature : Feature} {signal : Signal}

/-- The feature vetoes, and it is asked to admit transmissions. -/
def Defers (features : FeatureSet) (veto : Option Feature) (feature : Feature) : Prop :=
  veto = some feature ∧ feature.isEnabledIn features = true ∧
    .preTransmission ∈ feature.channels

theorem deferral?_eq_some_iff {callback : Callback} :
    (ofVeto veto feature).deferral? signal.channel signal.payload = some callback ↔
      veto = some feature ∧
        ∃ attempt : Attempt, signal = ⟨.preTransmission, attempt⟩ ∧ attempt.notify = callback := by
  obtain ⟨c, payload⟩ := signal
  cases c with
  | preTransmission =>
    by_cases hveto : veto = some feature
    · have hprobe : ofVeto veto feature = ⟨feature, true⟩ := by rw [ofVeto, beq_iff_eq.mpr hveto]
      rw [hprobe]
      constructor
      · exact fun h => ⟨hveto, payload, rfl, Option.some.inj h⟩
      · rintro ⟨-, attempt, he, rfl⟩
        cases he
        rfl
    · have hprobe : ofVeto veto feature = ⟨feature, false⟩ := by
        rw [ofVeto, beq_eq_false_iff_ne.mpr hveto]
      rw [hprobe]
      exact iff_of_false (fun h => Option.some_ne_none callback h.symm) fun h => hveto h.1
  | _ =>
    refine iff_of_false (fun h => Option.some_ne_none callback h.symm) ?_
    rintro ⟨-, attempt, he, -⟩
    cases he

/-- Whoever vetoes and insists is asked. -/
theorem candidate_mem_asked (hp : signal.channel.policy = .consent) (hveto : veto = some feature)
    (hinsists : feature.Insists signal)
    (hlisted : feature ∈ Feature.candidates signal.channel features) :
    candidate veto signal.channel feature ∈ (engine features veto).asked signal := by
  obtain ⟨front, back, hsplit, hfront⟩ := eq_append_cons_of_mem hlisted
  rw [(fire_of_vetoed hp hveto hinsists hsplit hfront).2.1]
  exact mem_map_of_mem (by simp)

/-- In a dispatch to probes, a continuation is kept exactly if it comes with an attempt, by the one
that vetoes. -/
theorem mem_kept_dispatch_iff {callback : Callback} :
    (feature, callback) ∈ ((engine features veto).dispatch signal).deeds.filterMap Deed.kept? ↔
      Defers features veto feature ∧
        ∃ attempt : Attempt, signal = ⟨.preTransmission, attempt⟩ ∧ attempt.notify = callback := by
  have hkept : ∀ other, (feature, callback) ∈ ((candidate veto signal.channel other).deeds
      signal.payload).filterMap Deed.kept? ↔
        other = feature ∧ (ofVeto veto other).deferral? signal.channel signal.payload =
          some callback := by
    intro other
    have hdeeds : (candidate veto signal.channel other).deeds signal.payload =
        (((ofVeto veto other).hook signal.channel).act signal.payload ()).deeds := rfl
    rw [hdeeds, kept_hook]
    simp [ofVeto, and_comm]
  rw [Registry.filterMap_deeds_dispatch _ _ _ fun _ => rfl, mem_flatMap]
  constructor
  · rintro ⟨member, hasked, hmem⟩
    obtain ⟨other, hother, rfl⟩ := mem_map.mp (mem_of_mem_take hasked)
    obtain ⟨rfl, hdeferral⟩ := (hkept other).mp hmem
    obtain ⟨hveto, attempt, rfl, hnotify⟩ := deferral?_eq_some_iff.mp hdeferral
    exact ⟨⟨hveto, Feature.mem_candidates.mp hother⟩, attempt, rfl, hnotify⟩
  · rintro ⟨⟨hveto, htable⟩, attempt, rfl, rfl⟩
    refine ⟨candidate veto .preTransmission feature,
      candidate_mem_asked rfl hveto trivial (Feature.mem_candidates.mpr htable), ?_⟩
    exact (hkept feature).mpr ⟨rfl, deferral?_eq_some_iff.mpr ⟨hveto, attempt, rfl, rfl⟩⟩

/-- No dispatch to probes calls a continuation. -/
theorem notices_dispatch (features : FeatureSet) (veto : Option Feature) (signal : Signal) :
    ((engine features veto).dispatch signal).deeds.filterMap Deed.notice? = [] := by
  rw [Registry.filterMap_deeds_dispatch _ _ _ fun _ => rfl, flatMap_eq_nil_iff]
  intro member hasked
  obtain ⟨other, -, rfl⟩ := mem_map.mp (mem_of_mem_take hasked)
  exact notices_hook _ _ _

end Probe

namespace ProbeBench

variable {bench : ProbeBench} {features : FeatureSet} {veto : Option Feature} {feature : Feature}

/-- What does not ask a feature to admit an attempt does not change what it keeps. -/
theorem held_perform_of_not_kept (h : bench.engine = Probe.engine features veto) {signal : Signal}
    (hno : ¬(Probe.Defers features veto feature ∧ signal.channel = .preTransmission)) :
    (bench.perform (.fire signal)).deferrals.held feature = bench.deferrals.held feature := by
  rw [deferrals_perform_fire, h]
  refine Deferrals.held_foldl_keep_of_ne (fun entry hmem he => hno ?_) _
  subst he
  obtain ⟨hdefers, attempt, rfl, -⟩ := Probe.mem_kept_dispatch_iff.mp hmem
  exact ⟨hdefers, rfl⟩

/-- One that vetoes keeps the continuation in place of what it kept. -/
theorem held_perform_of_defers (h : bench.engine = Probe.engine features veto)
    (hdefers : Probe.Defers features veto feature) (attempt : Attempt) :
    (bench.perform (.fire ⟨.preTransmission, attempt⟩)).deferrals.held feature =
      some attempt.notify := by
  rw [deferrals_perform_fire, h]
  refine Deferrals.held_foldl_keep_of_forall (ne_nil_of_mem
    (Probe.mem_kept_dispatch_iff.mpr ⟨hdefers, attempt, rfl, rfl⟩)) ?_ _
  rintro ⟨other, callback⟩ hmem
  obtain ⟨hother, latest, he, rfl⟩ := Probe.mem_kept_dispatch_iff.mp hmem
  cases he
  rw [Option.some.inj (hother.1.symm.trans hdefers.1)]

/-! ## Attempts that were not reported yet -/

/-- The latest attempt, if the feature did not report since. -/
def Pending (acts : List Act) (feature : Feature) (attempt : Attempt) : Prop :=
  ∃ before after, acts = before ++ .fire ⟨.preTransmission, attempt⟩ :: after ∧
    (∀ later : Attempt, .fire ⟨.preTransmission, later⟩ ∉ after) ∧
    ∀ frame, .resume feature frame ∉ after

theorem not_pending_nil (feature : Feature) (attempt : Attempt) :
    ¬Pending [] feature attempt := by
  rintro ⟨before, after, hsplit, -, -⟩
  simp at hsplit

theorem pending_concat_iff {acts : List Act} {act : Act} {feature : Feature} {attempt : Attempt} :
    Pending (acts ++ [act]) feature attempt ↔
      act = .fire ⟨.preTransmission, attempt⟩ ∨ Pending acts feature attempt ∧
        (∀ later : Attempt, act ≠ .fire ⟨.preTransmission, later⟩) ∧
        ∀ frame, act ≠ .resume feature frame := by
  constructor
  · rintro ⟨before, after, hsplit, hlater, hresume⟩
    rcases eq_nil_or_concat' after with rfl | ⟨after, last, rfl⟩
    · exact .inl (append_singleton_inj.mp hsplit).2
    · rw [← cons_append, ← append_assoc] at hsplit
      obtain ⟨rfl, rfl⟩ := append_singleton_inj.mp hsplit
      simp only [mem_append, mem_singleton, not_or] at hlater hresume
      exact .inr ⟨⟨before, after, rfl, fun later => (hlater later).1,
        fun frame => (hresume frame).1⟩, fun later => Ne.symm (hlater later).2,
        fun frame => Ne.symm (hresume frame).2⟩
  · rintro (rfl | ⟨⟨before, after, rfl, hlater, hresume⟩, hact, hact'⟩)
    · exact ⟨acts, [], rfl, fun _ => not_mem_nil, fun _ => not_mem_nil⟩
    · refine ⟨before, after ++ [act], by simp, fun later => ?_, fun frame => ?_⟩
      · simpa using ⟨hlater later, Ne.symm (hact later)⟩
      · simpa using ⟨hresume frame, Ne.symm (hact' frame)⟩

theorem pending_concat_attempt_iff {acts : List Act} {feature : Feature}
    {latest attempt : Attempt} :
    Pending (acts ++ [.fire ⟨.preTransmission, latest⟩]) feature attempt ↔ attempt = latest := by
  rw [pending_concat_iff]
  constructor
  · rintro (hact | ⟨-, hact, -⟩)
    · cases hact
      rfl
    · exact absurd rfl (hact latest)
  · rintro rfl
    exact .inl rfl

theorem pending_concat_fire_iff {acts : List Act} {signal : Signal} {feature : Feature}
    {attempt : Attempt} (hc : signal.channel ≠ .preTransmission) :
    Pending (acts ++ [.fire signal]) feature attempt ↔ Pending acts feature attempt := by
  have hne : ∀ later : Attempt, Act.fire signal ≠ .fire ⟨.preTransmission, later⟩ := by
    rintro later he
    cases he
    exact hc rfl
  simp [pending_concat_iff, hne]

theorem not_pending_concat_resume {acts : List Act} {feature : Feature} {frame : Frame}
    {attempt : Attempt} : ¬Pending (acts ++ [.resume feature frame]) feature attempt := by
  simp [pending_concat_iff]

theorem pending_concat_resume_iff {acts : List Act} {feature f : Feature} (hne : f ≠ feature)
    {frame : Frame} {attempt : Attempt} :
    Pending (acts ++ [.resume f frame]) feature attempt ↔ Pending acts feature attempt := by
  simp [pending_concat_iff, hne]

theorem pending_concat_drain_iff {acts : List Act} {feature : Feature} {attempt : Attempt} :
    Pending (acts ++ [.drain]) feature attempt ↔ Pending acts feature attempt := by
  simp [pending_concat_iff]

/-- What a probe keeps at any time of a session. -/
theorem held_performAll_iff (h : bench.engine = Probe.engine features veto)
    (hnew : bench.deferrals = {}) {acts : List Act} {callback : Callback} :
    (bench.performAll acts).deferrals.held feature = some callback ↔
      Probe.Defers features veto feature ∧
        ∃ attempt, Pending acts feature attempt ∧ attempt.notify = callback := by
  -- Only the last act matters for what changes, so the induction takes acts off the end.
  induction acts using reverseRecOn with
  | nil =>
    have hnone : (bench.performAll []).deferrals.held feature = none :=
      congrArg (Deferrals.held · feature) hnew
    simp [hnone, not_pending_nil]
  | append_singleton acts act ih =>
    have hengine : (bench.performAll acts).engine = Probe.engine features veto :=
      (engine_performAll bench acts).trans h
    rw [performAll_concat]
    cases act with
    | fire signal =>
      by_cases hc : signal.channel = .preTransmission
      · obtain ⟨latest, rfl⟩ := Signal.exists_attempt hc
        by_cases hdefers : Probe.Defers features veto feature
        · rw [held_perform_of_defers hengine hdefers latest]
          simp [hdefers, pending_concat_attempt_iff]
        · rw [held_perform_of_not_kept hengine fun hkept => hdefers hkept.1, ih]
          simp [hdefers]
      · rw [held_perform_of_not_kept hengine fun hkept => hc hkept.2, ih]
        simp only [pending_concat_fire_iff hc]
    | resume f frame =>
      by_cases hf : f = feature
      · subst hf
        simp [perform_resume, not_pending_concat_resume]
      · rw [perform_resume, Deferrals.held_release_of_ne _ (Ne.symm hf), ih]
        simp only [pending_concat_resume_iff hf]
    | drain => exact ih.trans (by simp only [pending_concat_drain_iff])

end ProbeBench

end MacDispatch
