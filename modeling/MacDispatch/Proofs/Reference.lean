import MacDispatch.Proofs.Assembling
import MacDispatch.Proofs.Isolation
import MacDispatch.Proofs.Sessions

/-! # The reference table

Main statement: a bench of probes can always be assembled, and whatever was done with it before,
it answers a signal as the table of features and channels says. Who takes part in the channel and
is on is called by rank, up to the one that vetoes if its veto holds against the signal. -/

namespace MacDispatch

open List

namespace Feature

/-- What the veto of a feature holds against. It does not keep from ending what the feature asked
to end, and it has nothing to say where nothing is ended. -/
def Insists (feature : Feature) : Signal → Prop
  | ⟨.terminate, (termination : Termination)⟩ =>
    termination.level = .ieee802154 ∧ termination.originator ≠ feature.originator
  | _ => True

theorem mem_candidates {feature : Feature} {c : Channel} {features : FeatureSet} :
    feature ∈ candidates c features ↔
      feature.isEnabledIn features = true ∧ c ∈ feature.channels := by
  have hall : feature ∈ all := Vocabulary.mem_all feature
  simp [candidates, participatesIn, hall]

theorem ranked_candidates (c : Channel) (features : FeatureSet) :
    (candidates c features).Pairwise (rank · < rank ·) :=
  Pairwise.filter _ (by decide)

end Feature

namespace Policy.Answer

variable {policy : Policy}

theorem verdict?_of_consent (h : policy = .consent) (answer : policy.Answer) :
    answer.verdict? = some (!answer.refuses) := by
  subst h
  exact congrArg some (Bool.not_not answer).symm

theorem verdict?_of_broadcast (h : policy = .broadcast) (answer : policy.Answer) :
    answer.verdict? = none := by
  subst h
  rfl

theorem refuses_ofVerdict (h : policy = .consent) (verdict : Bool) :
    (ofVerdict policy verdict).refuses = !verdict := by
  subst h
  rfl

end Policy.Answer

namespace Probe

/-! ## What a probe answers and does -/

/-- The verdict of a probe on what it is passed. -/
def verdict (probe : Probe) : (c : Channel) → c.Payload → Bool
  | .terminate, (termination : Termination) =>
    termination.originator == probe.feature.originator || !termination.level.abortsInProgress ||
      !probe.veto
  | _, _ => !probe.veto

/-- The continuation that a probe keeps of what it is passed. -/
def deferral? (probe : Probe) : (c : Channel) → c.Payload → Option Callback
  | .preTransmission, (attempt : Attempt) => if probe.veto then some attempt.notify else none
  | _, _ => none

theorem respond_hook (probe : Probe) (c : Channel) (payload : c.Payload) :
    (probe.hook c).respond payload () = (.ofVerdict c.policy (probe.verdict c payload), ()) := by
  cases c with
  | preTransmission =>
    obtain ⟨feature, veto⟩ := probe
    cases veto <;> rfl
  | _ => rfl

/-- On whichever channel a probe is called, it records the call with that channel. -/
theorem recordsFor_hook (probe : Probe) (c : Channel) :
    (probe.hook c).RecordsFor probe.feature := by
  rintro payload ⟨⟩
  cases c with
  | preTransmission =>
    obtain ⟨feature, veto⟩ := probe
    cases veto <;> rfl
  | _ => rfl

theorem kept_hook (probe : Probe) (c : Channel) (payload : c.Payload) :
    ((probe.hook c).act payload ()).deeds.filterMap Deed.kept? =
      ((probe.deferral? c payload).map fun callback => (probe.feature, callback)).toList := by
  cases c with
  | preTransmission =>
    obtain ⟨feature, veto⟩ := probe
    cases veto <;> rfl
  | _ => rfl

/-- A probe that is called on a channel calls no continuation. -/
theorem notices_hook (probe : Probe) (c : Channel) (payload : c.Payload) :
    ((probe.hook c).act payload ()).deeds.filterMap Deed.notice? = [] := by
  cases c with
  | preTransmission =>
    obtain ⟨feature, veto⟩ := probe
    cases veto <;> rfl
  | _ => rfl

/-! ## Probes on tables -/

/-- A probe as it stands on the table of a channel. -/
def candidate (veto : Option Feature) (c : Channel) (feature : Feature) : Candidate Unit c :=
  ⟨feature, (ofVeto veto feature).hook c⟩

/-- The engine with a probe wherever a feature that is on takes part in a channel. -/
def engine (features : FeatureSet) (veto : Option Feature) : Registry Unit where
  features := features
  table c := (Feature.candidates c features).map (candidate veto c)

theorem table_engine (features : FeatureSet) (veto : Option Feature) (c : Channel) :
    (engine features veto).table c = (Feature.candidates c features).map (candidate veto c) := rfl

theorem ranked_table_engine (features : FeatureSet) (veto : Option Feature) (c : Channel) :
    ((engine features veto).table c).Pairwise fun a b => a.feature.rank < b.feature.rank :=
  pairwise_map.mpr (Feature.ranked_candidates c features)

/-- An engine of probes records the calls made to it. -/
theorem recording_engine (features : FeatureSet) (veto : Option Feature) :
    (engine features veto).Recording := by
  intro c member hmem
  obtain ⟨feature, -, rfl⟩ := mem_map.mp hmem
  exact recordsFor_hook _ c

theorem verdict_eq_false_iff {veto : Option Feature} {feature : Feature} {signal : Signal} :
    (ofVeto veto feature).verdict signal.channel signal.payload = false ↔
      veto = some feature ∧ feature.Insists signal := by
  obtain ⟨c, payload⟩ := signal
  cases c with
  | terminate =>
    obtain ⟨level, originator⟩ : Termination := payload
    simp [verdict, ofVeto, Feature.Insists, TermLevel.abortsInProgress, and_comm]
  | _ => simp [verdict, ofVeto, Feature.Insists]

theorem refuses_candidate_iff {veto : Option Feature} {feature : Feature} {signal : Signal}
    (hp : signal.channel.policy = .consent) :
    (candidate veto signal.channel feature).refuses signal.payload = true ↔
      veto = some feature ∧ feature.Insists signal := by
  have hrespond := respond_hook (ofVeto veto feature) signal.channel signal.payload
  rw [← verdict_eq_false_iff, Candidate.refuses, Candidate.answer, candidate, hrespond,
    Policy.Answer.refuses_ofVerdict hp, Bool.not_eq_true']

theorem record_call_of_broadcast {c : Channel} (hp : c.policy = .broadcast) (payload : c.Payload)
    (candidate : Candidate Unit c) :
    (candidate.call payload).record = ⟨c, candidate.feature, none⟩ :=
  congrArg (ProbeCall.mk c candidate.feature) (Policy.Answer.verdict?_of_broadcast hp _)

theorem record_call_of_consent {c : Channel} (hp : c.policy = .consent) {payload : c.Payload}
    {candidate : Candidate Unit c} {refuses : Bool} (h : candidate.refuses payload = refuses) :
    (candidate.call payload).record = ⟨c, candidate.feature, some (!refuses)⟩ := by
  subst h
  exact congrArg (ProbeCall.mk c candidate.feature) (Policy.Answer.verdict?_of_consent hp _)

/-! ## Dispatches to probes -/

section Dispatch

variable {features : FeatureSet} {veto : Option Feature} {signal : Signal}

theorem not_refuses_of_not_insists (hp : signal.channel.policy = .consent) {asked : List Feature}
    (h : ∀ v ∈ asked, veto = some v → ¬v.Insists signal) :
    ∀ feature ∈ asked, (candidate veto signal.channel feature).refuses signal.payload = false := by
  intro feature hmem
  rw [Bool.eq_false_iff, ne_eq, refuses_candidate_iff hp]
  exact fun hveto => h feature hmem hveto.1 hveto.2

/-- Where no veto holds, everyone in the table is asked and the signal is granted. -/
theorem fire_of_granted (hp : signal.channel.policy = .consent)
    (hno : ∀ v ∈ Feature.candidates signal.channel features, veto = some v → ¬v.Insists signal) :
    ((engine features veto).fire signal).1.verdict? = some true ∧
      (engine features veto).asked signal =
        (Feature.candidates signal.channel features).map (candidate veto signal.channel) := by
  have htable : ∀ candidate ∈ (engine features veto).table signal.channel,
      candidate.refuses signal.payload = false :=
    forall_mem_map.mpr (not_refuses_of_not_insists hp hno)
  refine ⟨?_, Registry.asked_of_forall_not_refuses _ _ htable⟩
  rw [Registry.verdict?_fire_of_consent _ _ hp]
  simpa using htable

/-- Where a veto holds, who vetoes is the last to be asked and the signal is refused. -/
theorem fire_of_vetoed (hp : signal.channel.policy = .consent) {v : Feature}
    (hveto : veto = some v) (hinsists : v.Insists signal) {front back : List Feature}
    (hsplit : Feature.candidates signal.channel features = front ++ v :: back)
    (hfront : v ∉ front) :
    ((engine features veto).fire signal).1.verdict? = some false ∧
      (engine features veto).asked signal =
        (front ++ [v]).map (candidate veto signal.channel) ∧
      (∀ feature ∈ front,
        (candidate veto signal.channel feature).refuses signal.payload = false) ∧
      (candidate veto signal.channel v).refuses signal.payload = true := by
  have hyes : ∀ feature ∈ front,
      (candidate veto signal.channel feature).refuses signal.payload = false := by
    refine not_refuses_of_not_insists hp fun w hw hw' => ?_
    obtain rfl : v = w := Option.some.inj (hveto.symm.trans hw')
    exact absurd hw hfront
  have hno : (candidate veto signal.channel v).refuses signal.payload = true :=
    (refuses_candidate_iff hp).mpr ⟨hveto, hinsists⟩
  have htable : (engine features veto).table signal.channel =
      front.map (candidate veto signal.channel) ++
        candidate veto signal.channel v :: back.map (candidate veto signal.channel) := by
    rw [table_engine, hsplit, map_append, map_cons]
  refine ⟨?_, ?_, hyes, hno⟩
  · rw [Registry.verdict?_fire_of_consent _ _ hp, htable]
    simp [hno]
  · rw [map_append]
    exact Registry.asked_of_refuses _ _ htable (forall_mem_map.mpr hyes) hno

end Dispatch

end Probe

namespace ProbeBench

/-! ## Assembling a bench -/

theorem map_feature_modules (veto : Option Feature) :
    (Feature.all.map (Probe.module veto)).map FeatureModule.feature = Feature.all := by
  rw [map_map]
  exact map_id _

theorem value_assembly (features : FeatureSet) (veto : Option Feature) :
    (assembly features veto).value = .ok ⟨features, Feature.all.map (Probe.module veto)⟩ := by
  refine Assembly.value_addAll_of_nodup ?_
  rw [Assembly.empty, nil_append, map_feature_modules]
  decide

theorem mem_hooks_module_iff {veto : Option Feature} {feature : Feature} {c : Channel}
    {hook : Hook Unit c} :
    ⟨c, hook⟩ ∈ (Probe.module veto feature).hooks ↔
      c ∈ feature.channels ∧ hook = (Probe.ofVeto veto feature).hook c := by
  rw [Probe.module, mem_map]
  constructor
  · rintro ⟨d, hd, he⟩
    cases he
    exact ⟨hd, rfl⟩
  · rintro ⟨hc, rfl⟩
    exact ⟨c, hc, rfl⟩

/-- No probe fails, and none registers two hooks on one channel. -/
theorem exists_build_assembly (features : FeatureSet) (veto : Option Feature) :
    ∃ registry, (Assembly.build ⟨features, Feature.all.map (Probe.module veto)⟩).value =
      .ok registry := by
  refine Assembly.exists_build ?_ fun c feature _ =>
    Assembly.tally_registrations_le_one ?_ ?_ feature c
  · intro module hmem _
    obtain ⟨feature, -, rfl⟩ := mem_map.mp hmem
    rfl
  · refine (filter_sublist.map FeatureModule.feature).nodup ?_
    rw [map_feature_modules]
    decide
  · intro module hmem
    obtain ⟨feature, -, rfl⟩ := mem_map.mp (mem_of_mem_filter hmem)
    have hchannels : (Probe.module veto feature).hooks.map Attachment.channel =
        feature.channels := by
      rw [Probe.module, map_map]
      exact map_id _
    rw [hchannels]
    cases feature <;> decide

/-- The probes are built into the engine that has them where the table says. -/
theorem value_build_assembly (features : FeatureSet) (veto : Option Feature) :
    (Assembly.build ⟨features, Feature.all.map (Probe.module veto)⟩).value =
      .ok (Probe.engine features veto) := by
  obtain ⟨registry, hbuild⟩ := exists_build_assembly features veto
  have hfeatures : registry.features = features :=
    (Registry.tablesSpec_of_eq_ok (Assembly.ofRegistrations_of_build hbuild)).features_eq
  have hmem : ∀ c, ∀ candidate, candidate ∈ registry.table c ↔
      candidate ∈ (Probe.engine features veto).table c := by
    intro c candidate
    rw [Assembly.mem_table_iff_of_build hbuild, Probe.table_engine, mem_map]
    constructor
    · rintro ⟨module, hmodule, hon, hfeature, hhook⟩
      obtain ⟨feature, -, rfl⟩ := mem_map.mp hmodule
      obtain ⟨hc, he⟩ := mem_hooks_module_iff.mp hhook
      refine ⟨feature, Feature.mem_candidates.mpr ⟨hon, hc⟩, ?_⟩
      rw [Probe.candidate, ← he]
      exact congrArg (Candidate.mk · candidate.hook) hfeature
    · rintro ⟨feature, hfeature, rfl⟩
      obtain ⟨hon, hc⟩ := Feature.mem_candidates.mp hfeature
      exact ⟨Probe.module veto feature, mem_map_of_mem (Vocabulary.mem_all feature), hon, rfl,
        mem_hooks_module_iff.mpr ⟨hc, rfl⟩⟩
  -- Both tables are strictly ranked, so their members settle them.
  have htable : ∀ c, registry.table c = (Probe.engine features veto).table c := by
    intro c
    have hranked := (Assembly.frozen_of_build hbuild).ranked c
    have hranked' := Probe.ranked_table_engine features veto c
    exact Candidate.eq_of_perm_of_ranked
      ((perm_ext_iff_of_nodup (Candidate.nodup_of_ranked hranked).of_map
        (Candidate.nodup_of_ranked hranked').of_map).mpr (hmem c)) hranked hranked'
  exact hbuild.trans (congrArg Except.ok (Registry.eq_of_table_eq hfeatures htable))

theorem value_assemble (features : FeatureSet) (veto : Option Feature) :
    (assemble features veto).value = .ok { engine := Probe.engine features veto } := by
  rw [assemble, Traced.value_bind, value_assembly]
  simp only [Traced.value_bind, value_build_assembly]
  rfl

/-! ## Signals -/

/-- A signal fired on the bench ends with a verdict or none, and its calls are added to the log. -/
def Shows (bench : ProbeBench) (signal : Signal) (verdict? : Option Bool)
    (calls : List ProbeCall) : Prop :=
  ∃ firing later, (bench.dispatch signal).value = (firing, later) ∧ firing.signal = signal ∧
    firing.verdict? = verdict? ∧ later.log = bench.log ++ calls

variable {bench : ProbeBench} {features : FeatureSet} {veto : Option Feature} {signal : Signal}

theorem shows_of_asked (h : bench.engine = Probe.engine features veto) {verdict? : Option Bool}
    {asked : List Feature}
    (hverdict : ((Probe.engine features veto).fire signal).1.verdict? = verdict?)
    (hasked : (Probe.engine features veto).asked signal =
      asked.map (Probe.candidate veto signal.channel)) :
    bench.Shows signal verdict? (asked.map fun feature =>
      ((Probe.candidate veto signal.channel feature).call signal.payload).record) := by
  have hrecording : bench.engine.Recording := h ▸ Probe.recording_engine features veto
  rw [← h] at hverdict hasked
  refine ⟨_, _, rfl, rfl, hverdict, (log_perform_fire hrecording signal).trans ?_⟩
  congr 1
  calc
    (bench.engine.fire signal).1.calls.map Call.record
      = ((bench.engine.asked signal).map (·.call signal.payload)).map Call.record :=
        congrArg (List.map Call.record) (bench.engine.calls_fire signal)
    _ = asked.map fun feature =>
        ((Probe.candidate veto signal.channel feature).call signal.payload).record := by
      rw [hasked, map_map, map_map]
      rfl

theorem shows_of_broadcast (h : bench.engine = Probe.engine features veto)
    (hp : signal.channel.policy = .broadcast) :
    bench.Shows signal none
      ((Feature.candidates signal.channel features).map (⟨signal.channel, ·, none⟩)) := by
  have hshows := shows_of_asked h (Registry.verdict?_fire_of_broadcast _ signal hp)
    (Registry.asked_of_broadcast _ signal hp)
  rwa [map_congr_left fun feature _ => Probe.record_call_of_broadcast hp _ _] at hshows

theorem shows_of_granted (h : bench.engine = Probe.engine features veto)
    (hp : signal.channel.policy = .consent)
    (hno : ∀ v ∈ Feature.candidates signal.channel features, veto = some v → ¬v.Insists signal) :
    bench.Shows signal (some true)
      ((Feature.candidates signal.channel features).map (⟨signal.channel, ·, some true⟩)) := by
  obtain ⟨hverdict, hasked⟩ := Probe.fire_of_granted hp hno
  have hshows := shows_of_asked h hverdict hasked
  rwa [map_congr_left fun feature hmem => Probe.record_call_of_consent hp
    (Probe.not_refuses_of_not_insists hp hno feature hmem)] at hshows

theorem shows_of_vetoed (h : bench.engine = Probe.engine features veto)
    (hp : signal.channel.policy = .consent) {v : Feature} (hveto : veto = some v)
    (hinsists : v.Insists signal) {front back : List Feature}
    (hsplit : Feature.candidates signal.channel features = front ++ v :: back)
    (hfront : v ∉ front) :
    bench.Shows signal (some false)
      (front.map (⟨signal.channel, ·, some true⟩) ++ [⟨signal.channel, v, some false⟩]) := by
  obtain ⟨hverdict, hasked, hyes, hno⟩ := Probe.fire_of_vetoed hp hveto hinsists hsplit hfront
  have hshows := shows_of_asked h hverdict hasked
  rwa [map_append, map_congr_left fun feature hmem =>
    Probe.record_call_of_consent hp (hyes feature hmem), map_singleton,
    Probe.record_call_of_consent hp hno] at hshows

/-! ## Agreement with the table -/

/-- The bench answers a signal as the table says. -/
structure ReferenceSpec (features : FeatureSet) (veto : Option Feature) (bench : ProbeBench)
    (signal : Signal) : Prop where
  broadcast : signal.channel.policy = .broadcast →
    bench.Shows signal none
      ((Feature.candidates signal.channel features).map (⟨signal.channel, ·, none⟩))
  /-- The one that vetoes ends the dispatch if it is in the table and its veto holds. -/
  vetoed : signal.channel.policy = .consent →
    ∀ v ∈ Feature.candidates signal.channel features, veto = some v → v.Insists signal →
      ∃ front back, Feature.candidates signal.channel features = front ++ v :: back ∧
        v ∉ front ∧ bench.Shows signal (some false)
          (front.map (⟨signal.channel, ·, some true⟩) ++ [⟨signal.channel, v, some false⟩])
  granted : signal.channel.policy = .consent →
    (∀ v ∈ Feature.candidates signal.channel features, veto = some v → ¬v.Insists signal) →
      bench.Shows signal (some true)
        ((Feature.candidates signal.channel features).map (⟨signal.channel, ·, some true⟩))

/-- Probes can be assembled under all switches and with any of them vetoing, and whatever is done
with them, they keep to the table. -/
theorem probes_follow_reference (features : FeatureSet) (veto : Option Feature) :
    ∃ assembled engine, (assembly features veto).value = .ok assembled ∧
      assembled.build.value = .ok engine ∧ (assemble features veto).value = .ok { engine } ∧
        ∀ acts signal, ReferenceSpec features veto (performAll { engine } acts) signal := by
  refine ⟨_, _, value_assembly features veto, value_build_assembly features veto,
    value_assemble features veto, fun acts signal => ?_⟩
  have hengine : (performAll { engine := Probe.engine features veto } acts).engine =
      Probe.engine features veto := engine_performAll _ acts
  refine ⟨shows_of_broadcast hengine, ?_, shows_of_granted hengine⟩
  intro hp v hv hveto hinsists
  obtain ⟨front, back, hsplit, hfront⟩ := eq_append_cons_of_mem hv
  exact ⟨front, back, hsplit, hfront, shows_of_vetoed hengine hp hveto hinsists hsplit hfront⟩

end ProbeBench

end MacDispatch
