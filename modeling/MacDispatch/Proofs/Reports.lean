import MacDispatch.Proofs.Attempts
import MacDispatch.Proofs.Deferrals

/-! # Reports of deferred attempts

Main statement: whatever is done with a bench of probes, a deferred attempt is reported at most
once, with the latest continuation, when the probe that keeps it is told to report. No dispatch
ever calls a continuation. After a replay, the attempt is reported by one probe if it was not
admitted, and otherwise by none. -/

namespace MacDispatch

open List

namespace ProbeBench

variable {bench : ProbeBench} {features : FeatureSet} {veto : Option Feature} {feature : Feature}

/-! ## Reports -/

theorem resume_of_held {callback : Callback} (h : bench.deferrals.held feature = some callback)
    (frame : Frame) :
    (bench.resume feature frame).value.1 = true ∧ (bench.resume feature frame).deeds =
      [.tell (Probe.reporting feature), .notify ⟨callback, frame, .busyChannel⟩] := by
  rw [resume, h]
  exact ⟨rfl, rfl⟩

theorem resume_of_not_held (h : bench.deferrals.held feature = none) (frame : Frame) :
    (bench.resume feature frame).value.1 = false ∧ (bench.resume feature frame).deeds = [] := by
  rw [resume, h]
  exact ⟨rfl, rfl⟩

theorem deferrals_resume (bench : ProbeBench) (feature : Feature) (frame : Frame) :
    (bench.resume feature frame).value.2.deferrals = bench.deferrals.release feature :=
  congrArg (fun reached => reached.deferrals) (perform_resume bench feature frame)

/-- Whether something is kept by a feature. -/
def keeps (bench : ProbeBench) (feature : Feature) : Bool :=
  (bench.deferrals.held feature).isSome

theorem resume_of_not_keeps (h : bench.keeps feature = false) (frame : Frame) :
    (bench.resume feature frame).value.1 = false ∧ (bench.resume feature frame).deeds = [] :=
  resume_of_not_held (Option.not_isSome_iff_eq_none.mp (by simpa [keeps] using h)) frame

theorem value_resume (bench : ProbeBench) (feature : Feature) (frame : Frame) :
    (bench.resume feature frame).value.1 = bench.keeps feature := by
  cases hheld : bench.deferrals.held feature with
  | none => rw [(resume_of_not_held hheld frame).1, keeps, hheld, Option.isSome_none]
  | some callback => rw [(resume_of_held hheld frame).1, keeps, hheld, Option.isSome_some]

theorem deeds_resume_congr {other : ProbeBench}
    (h : other.deferrals.held feature = bench.deferrals.held feature) (frame : Frame) :
    (other.resume feature frame).deeds = (bench.resume feature frame).deeds := by
  rw [resume, resume, h]
  cases bench.deferrals.held feature <;> rfl

/-- Whoever keeps something reports it in turn, and nobody else reports anything. -/
theorem resumeAll_go_eq (frame : Frame) {waiting : List Feature} (hnodup : waiting.Nodup)
    (bench : ProbeBench) :
    (resumeAll.go frame waiting bench).value.1 = waiting.filter bench.keeps ∧
      (resumeAll.go frame waiting bench).deeds =
        (waiting.filter bench.keeps).flatMap fun f => (bench.resume f frame).deeds := by
  induction waiting generalizing bench with
  | nil => exact ⟨rfl, rfl⟩
  | cons feature rest ih =>
    obtain ⟨hnotMem, hrest⟩ := nodup_cons.mp hnodup
    obtain ⟨ihvalue, ihdeeds⟩ := ih hrest (bench.resume feature frame).value.2
    -- What the others keep is still there after the first has reported.
    have hheld : ∀ f ∈ rest, (bench.resume feature frame).value.2.deferrals.held f =
        bench.deferrals.held f := by
      intro f hf
      rw [deferrals_resume, Deferrals.held_release_of_ne _ (ne_of_mem_of_not_mem hf hnotMem)]
    have hwaiting : rest.filter (keeps (bench.resume feature frame).value.2) =
        rest.filter bench.keeps :=
      filter_congr fun f hf => congrArg Option.isSome (hheld f hf)
    rw [hwaiting] at ihvalue ihdeeds
    rw [flatMap_congr fun f hf => deeds_resume_congr (hheld f (mem_of_mem_filter hf)) frame]
      at ihdeeds
    have hvalue : (resumeAll.go frame (feature :: rest) bench).value.1 =
        if bench.keeps feature then feature :: rest.filter bench.keeps
        else rest.filter bench.keeps := by
      rw [← value_resume bench feature frame, ← ihvalue]
      rfl
    have hdeeds : (resumeAll.go frame (feature :: rest) bench).deeds =
        (bench.resume feature frame).deeds ++
          ((rest.filter bench.keeps).flatMap (fun f => (bench.resume f frame).deeds) ++ []) := by
      rw [← ihdeeds]
      rfl
    cases hkeeps : bench.keeps feature with
    | false => simp [hvalue, hdeeds, hkeeps, (resume_of_not_keeps hkeeps frame).2]
    | true => simp [hvalue, hdeeds, hkeeps]

/-! ## Dispatches report nothing -/

theorem notify_notMem_dispatch (features : FeatureSet) (veto : Option Feature) (signal : Signal)
    (notice : Notice) : .notify notice ∉ ((Probe.engine features veto).dispatch signal).deeds := by
  intro hmem
  have hnotice := mem_filterMap.mpr ⟨_, hmem, (rfl : Deed.notice? (.notify notice) = some notice)⟩
  rw [Probe.notices_dispatch] at hnotice
  exact not_mem_nil hnotice

theorem notify_notMem_dispatchAll (features : FeatureSet) (veto : Option Feature)
    (signals : List Signal) (notice : Notice) :
    .notify notice ∉ ((Probe.engine features veto).dispatchAll signals).deeds := by
  induction signals with
  | nil => exact not_mem_nil
  | cons signal rest ih =>
    rw [Registry.deeds_dispatchAll_cons, Registry.snd_fire_of_subsingleton, mem_append, not_or]
    exact ⟨notify_notMem_dispatch features veto signal notice, ih⟩

/-! ## Replays -/

theorem pending_append_iff {acts later : List Act} {attempt : Attempt}
    (h : ∀ act ∈ later, (∀ latest : Attempt, act ≠ .fire ⟨.preTransmission, latest⟩) ∧
      ∀ frame, act ≠ .resume feature frame) :
    Pending (acts ++ later) feature attempt ↔ Pending acts feature attempt := by
  induction later using reverseRecOn with
  | nil => rw [append_nil]
  | append_singleton front last ih =>
    have hlast := h last (by simp)
    rw [← append_assoc, pending_concat_iff, ih fun act hmem => h act (mem_append_left _ hmem)]
    exact ⟨fun hp => hp.elim (absurd · (hlast.1 attempt)) And.left, fun hp => .inr ⟨hp, hlast⟩⟩

/-- In a replay, the log is drained after each dispatch. -/
theorem bench_play (stage : Replay.Stage Unit) (signals : List Signal) :
    (stage.play signals).value.bench =
      performAll stage.bench (signals.flatMap fun signal => [.fire signal, .drain]) := by
  induction signals generalizing stage with
  | nil => rfl
  | cons signal rest ih => exact ih _

/-- A replay is a session in which admission is asked for once. -/
theorem exists_bench_run_eq_performAll (bench : ProbeBench) (plan : Replay.Plan) :
    ∃ acts, (Replay.run bench plan).value.bench = bench.performAll acts ∧
      ∀ feature attempt, Pending acts feature attempt ↔ attempt = ⟨plan.frame, true, .report⟩ := by
  obtain ⟨course, hcourse, hrun⟩ := Replay.exists_run_eq bench plan
  refine ⟨_, by rw [hrun]; exact bench_play { bench } _, fun feature attempt => ?_⟩
  -- What follows the request for admission asks for none, and reports nothing.
  have hlater : ∀ act ∈ Act.drain :: ((⟨.transmissionReady, (⟨plan.frame,
      Replay.admission bench.engine plan⟩ : Preparation)⟩ : Signal) ::
        (course ++ Replay.closing plan)).flatMap fun signal => [.fire signal, .drain],
      (∀ latest : Attempt, act ≠ .fire ⟨.preTransmission, latest⟩) ∧
        ∀ frame, act ≠ .resume feature frame := by
    refine forall_mem_cons.mpr ⟨⟨nofun, nofun⟩, fun act hmem => ?_⟩
    obtain ⟨signal, hsignal, hact⟩ := mem_flatMap.mp hmem
    have hne : signal.channel ≠ .preTransmission :=
      (forall_mem_cons.mpr ⟨nofun, hcourse.channel_ne_preTransmission⟩ :
        ∀ signal ∈ _ :: (course ++ Replay.closing plan), _) signal hsignal
    rcases mem_cons.mp hact with rfl | hdrain
    · exact ⟨fun latest he => hne (congrArg Signal.channel (Act.fire.inj he)), nofun⟩
    · obtain rfl := mem_singleton.mp hdrain
      exact ⟨nofun, nofun⟩
  have hasked := @pending_concat_attempt_iff
    [.fire ⟨.prioChanged, (⟨.idle, plan.granted⟩ : PriorityChange)⟩, .drain] feature
    ⟨plan.frame, true, .report⟩ attempt
  exact (pending_append_iff hlater).trans hasked

/-- A replay is refused admission exactly if there is one to defer it. -/
theorem admission_eq_false_iff {plan : Replay.Plan} :
    Replay.admission (Probe.engine features veto) plan = false ↔
      ∃ v, Probe.Defers features veto v := by
  have hverdict : ((Probe.engine features veto).fire
      ⟨.preTransmission, (⟨plan.frame, true, .report⟩ : Attempt)⟩).1.verdict? =
        some (Replay.admission (Probe.engine features veto) plan) := by
    rw [Replay.admission, Registry.snd_run_of_subsingleton]
    exact Registry.verdict?_fire_eq_some_admitted _ _ rfl
  constructor
  · intro hno
    by_contra hnobody
    have hgranted := @Probe.fire_of_granted features veto
      ⟨.preTransmission, (⟨plan.frame, true, .report⟩ : Attempt)⟩ rfl fun v hv hveto _ =>
        hnobody ⟨v, hveto, Feature.mem_candidates.mp hv⟩
    rw [hgranted.1, hno] at hverdict
    exact absurd hverdict (by decide)
  · rintro ⟨v, hveto, htable⟩
    obtain ⟨front, back, hsplit, hfront⟩ :=
      eq_append_cons_of_mem (Feature.mem_candidates.mpr htable)
    have hvetoed := @Probe.fire_of_vetoed features veto
      ⟨.preTransmission, (⟨plan.frame, true, .report⟩ : Attempt)⟩ rfl v hveto trivial front back
      hsplit hfront
    rw [hvetoed.1] at hverdict
    exact (Option.some.inj hverdict).symm

/-- What is kept after a replay on a new bench is the attempt itself, by the one that defers. -/
theorem held_run_iff (h : bench.engine = Probe.engine features veto)
    (hnew : bench.deferrals = {}) {plan : Replay.Plan} {callback : Callback} :
    (Replay.run bench plan).value.bench.deferrals.held feature = some callback ↔
      Probe.Defers features veto feature ∧ callback = .report := by
  obtain ⟨acts, hacts, hpending⟩ := exists_bench_run_eq_performAll bench plan
  rw [hacts, held_performAll_iff h hnew]
  simp only [hpending, exists_eq_left, eq_comm]

theorem keeps_run_iff (h : bench.engine = Probe.engine features veto)
    (hnew : bench.deferrals = {}) {plan : Replay.Plan} :
    keeps (Replay.run bench plan).value.bench feature = true ↔
      Probe.Defers features veto feature := by
  rw [keeps, Option.isSome_iff_exists]
  simp only [held_run_iff h hnew, exists_and_left, exists_eq, and_true]

/-- At most one can defer. -/
theorem filter_keeps_run (h : bench.engine = Probe.engine features veto)
    (hnew : bench.deferrals = {}) (plan : Replay.Plan) {v : Feature}
    (hdefers : Probe.Defers features veto v) :
    Feature.all.filter (keeps (Replay.run bench plan).value.bench) = [v] := by
  have hkeeps : ∀ f, keeps (Replay.run bench plan).value.bench f = (f == v) := by
    intro f
    rw [Bool.eq_iff_iff, keeps_run_iff h hnew, beq_iff_eq]
    constructor
    · exact fun hf => Option.some.inj (hf.1.symm.trans hdefers.1)
    · rintro rfl
      exact hdefers
  rw [filter_congr fun f _ => hkeeps f]
  cases v <;> rfl

/-- After a replay, an attempt that was not admitted is reported by the one that deferred it, and
nobody else reports anything. -/
structure ReplayReportSpec (veto : Option Feature) (bench : ProbeBench) (plan : Replay.Plan)
    (frame : Frame) (admitted : Bool) : Prop where
  row_exists : ∃ row ∈ (Replay.run bench plan).value.rows, row.channel = .preTransmission
  row_eq : ∀ row ∈ (Replay.run bench plan).value.rows,
    row.channel = .preTransmission → row.verdict? = some admitted
  /-- Nothing is reported in the course of the replay. -/
  silent : ∀ notice, .notify notice ∉ (Replay.run bench plan).deeds
  of_refused : admitted = false → ∃ v, veto = some v ∧
    (resumeAll (Replay.run bench plan).value.bench frame).value.1 = [v] ∧
    (resumeAll (Replay.run bench plan).value.bench frame).deeds =
      [.tell (Probe.reporting v), .notify ⟨.report, frame, .busyChannel⟩]
  of_admitted : admitted = true →
    (resumeAll (Replay.run bench plan).value.bench frame).value.1 = [] ∧
    (resumeAll (Replay.run bench plan).value.bench frame).deeds = []

theorem replayReportSpec (h : bench.engine = Probe.engine features veto)
    (hnew : bench.deferrals = {}) (plan : Replay.Plan) (frame : Frame) :
    ReplayReportSpec veto bench plan frame (Replay.admission bench.engine plan) := by
  obtain ⟨hvalue, hdeeds⟩ := resumeAll_go_eq frame (by decide : Feature.all.Nodup)
    (Replay.run bench plan).value.bench
  refine ⟨Replay.exists_preTransmission_row _ _, ?_, fun notice => ?_, fun hno => ?_,
    fun hyes => ?_⟩
  · intro row hmem hc
    obtain ⟨firing, hfiring, hchannel, hverdict⟩ := Replay.exists_firing_of_mem_rows hmem
    rw [hverdict, Replay.verdict?_preTransmission hfiring (hchannel.symm.trans hc)]
  · obtain ⟨course, -, hrun⟩ := Replay.exists_run_eq bench plan
    rw [hrun, Replay.Stage.deeds_play, h]
    exact notify_notMem_dispatchAll features veto _ notice
  · rw [h, admission_eq_false_iff] at hno
    obtain ⟨v, hdefers⟩ := hno
    rw [filter_keeps_run h hnew plan hdefers] at hvalue hdeeds
    refine ⟨v, hdefers.1, hvalue, hdeeds.trans ?_⟩
    rw [flatMap_singleton]
    exact (resume_of_held ((held_run_iff h hnew).mpr ⟨hdefers, rfl⟩) frame).2
  · have hnobody : Feature.all.filter (keeps (Replay.run bench plan).value.bench) = [] := by
      refine filter_eq_nil_iff.mpr fun f _ hkeeps => ?_
      rw [h] at hyes
      have hdefers : Probe.Defers features veto f := (keeps_run_iff h hnew).mp hkeeps
      exact Bool.false_ne_true ((admission_eq_false_iff.mpr ⟨f, hdefers⟩).symm.trans hyes)
    rw [hnobody] at hvalue hdeeds
    exact ⟨hvalue, hdeeds⟩

/-! ## Sessions -/

/-- What is kept at the end of a session, and what becomes of it. -/
structure DeferralSpec (features : FeatureSet) (veto : Option Feature) (acts : List Act)
    (bench : ProbeBench) : Prop where
  held_iff : ∀ feature callback, bench.deferrals.held feature = some callback ↔
    Probe.Defers features veto feature ∧
      ∃ attempt, Pending acts feature attempt ∧ attempt.notify = callback
  reported : ∀ feature callback frame, bench.deferrals.held feature = some callback →
    (bench.resume feature frame).value.1 = true ∧ (bench.resume feature frame).deeds =
      [.tell (Probe.reporting feature), .notify ⟨callback, frame, .busyChannel⟩]
  unreported : ∀ feature frame, bench.deferrals.held feature = none →
    (bench.resume feature frame).value.1 = false ∧ (bench.resume feature frame).deeds = []
  released : ∀ feature frame, (bench.resume feature frame).value.2.deferrals.held feature = none
  silent : ∀ signal notice, .notify notice ∉ (bench.dispatch signal).deeds

/-- Attempts that are deferred are reported at most once, with the latest continuation. -/
theorem deferred_reported_once (features : FeatureSet) (veto : Option Feature) :
    ∃ bench, (assemble features veto).value = .ok bench ∧
      (∀ acts, DeferralSpec features veto acts (bench.performAll acts)) ∧
        ∀ plan frame, ∃ admitted, ReplayReportSpec veto bench plan frame admitted := by
  refine ⟨_, value_assemble features veto, fun acts => ?_, fun plan frame => ?_⟩
  · have hengine := engine_performAll { engine := Probe.engine features veto } acts
    refine ⟨fun _ _ => held_performAll_iff rfl rfl, fun _ _ frame h => resume_of_held h frame,
      fun _ frame h => resume_of_not_held h frame, fun feature frame => ?_,
      fun signal notice => ?_⟩
    · rw [deferrals_resume, Deferrals.held_release_self]
    · rw [Bench.dispatch, hengine]
      exact notify_notMem_dispatch features veto signal notice
  · exact ⟨_, replayReportSpec rfl rfl plan frame⟩

end ProbeBench

end MacDispatch
