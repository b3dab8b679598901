import MacDispatch.Proofs.Deeds
import MacDispatch.Report.Listing
import Mathlib.Data.Nat.Bitwise

/-! # Attempts

Main statement: the replay of an attempt takes the one course that the answers to it leave open,
and lists it without gaps. A frame that was refused, before or on the air, is told of as failed;
any other is told of as transmitted, and then acknowledged if it asked for that. -/

namespace MacDispatch

open List

variable {σ : Type}

namespace Frame

/-- There is a second byte, and the bit that stands for 0x20 is set in it. -/
def AsksForAck (frame : Frame) : Prop :=
  ∃ control, frame.bytes[1]? = some control ∧ control.toNat.testBit 5 = true

theorem ackRequested_iff {frame : Frame} : frame.ackRequested = true ↔ frame.AsksForAck := by
  rw [ackRequested, AsksForAck]
  cases frame.bytes[1]? with
  | none => simp
  | some control =>
    have hbit : (control &&& 0x20).toNat = (control.toNat.testBit 5).toNat * 2 ^ 5 := by
      rw [UInt8.toNat_and]
      exact Nat.and_two_pow _ 5
    have hzero : (control &&& 0x20) = 0 ↔ control.toNat.testBit 5 = false := by
      rw [← UInt8.toNat_inj, hbit]
      cases control.toNat.testBit 5 <;> simp
    simp [hzero]

end Frame

namespace Replay

/-! ## Courses -/

/-- How an attempt begins, once it is known whether it was admitted. -/
def opening (plan : Plan) (admitted : Bool) : List Signal :=
  [⟨.prioChanged, (⟨.idle, plan.granted⟩ : PriorityChange)⟩,
    ⟨.preTransmission, (⟨plan.frame, true, .report⟩ : Attempt)⟩,
    ⟨.transmissionReady, (⟨plan.frame, admitted⟩ : Preparation)⟩]

/-- What lies between the beginning and the end of an attempt, given whether it was admitted and
whether its start was. -/
inductive Course (plan : Plan) : Bool → Bool → List Signal → Prop
  | deferred (started : Bool) :
    Course plan false started [⟨.txFailed, (⟨plan.frame, plan.error⟩ : FailedAttempt)⟩]
  | vetoed :
    Course plan true false
      [⟨.txStarted, plan.frame⟩, ⟨.txFailed, (⟨plan.frame, plan.error⟩ : FailedAttempt)⟩]
  | acknowledged (h : plan.frame.AsksForAck) :
    Course plan true true
      [⟨.txStarted, plan.frame⟩, ⟨.transmitted, plan.frame⟩, ⟨.rxAckStarted, ()⟩,
        ⟨.rxStarted, plan.frame⟩]
  | unacknowledged (h : ¬plan.frame.AsksForAck) :
    Course plan true true
      [⟨.txStarted, plan.frame⟩, ⟨.transmitted, plan.frame⟩, ⟨.rxStarted, plan.frame⟩]

def closing (plan : Plan) : List Signal :=
  [⟨.terminate, (⟨.ieee802154, .higherLayer⟩ : Termination)⟩,
    ⟨.prioChanged, (⟨plan.granted, .idle⟩ : PriorityChange)⟩]

/-- The signals of an attempt that takes a course. -/
def signals (plan : Plan) (admitted : Bool) (course : List Signal) : List Signal :=
  opening plan admitted ++ (course ++ closing plan)

/-! ## Stages -/

namespace Stage

variable (stage : Stage σ) (signal : Signal)

/-- The stage after a dispatch on the channel of its signal. -/
def next : Acted (Stage σ) := do
  let (_, stage) ← step signal.channel signal stage
  return stage

/-- The stage after dispatches on the channels of their signals. -/
def play (stage : Stage σ) : List Signal → Acted (Stage σ)
  | [] => return stage
  | signal :: rest => do (← stage.next signal).play rest

theorem value_next : (stage.next signal).value =
    { bench := (stage.bench.dispatch signal).value.2.drain.2
      firings := stage.firings ++ [(stage.bench.engine.fire signal).1]
      rows := stage.rows ++ [⟨stage.rows.length + 1, signal.channel,
        (stage.bench.engine.fire signal).1.verdict?,
        (stage.bench.dispatch signal).value.2.log.map ProbeCall.feature⟩] } := rfl

theorem deeds_next :
    (stage.next signal).deeds = (stage.bench.engine.dispatch signal).deeds := by
  rw [next, step, Acted.deeds_bind, Acted.deeds_bind, Acted.deeds_pure, Acted.deeds_pure,
    append_nil, append_nil]
  rfl

theorem value_play_cons (rest : List Signal) :
    (stage.play (signal :: rest)).value = ((stage.next signal).value.play rest).value := rfl

theorem engine_play (signals : List Signal) :
    (stage.play signals).value.bench.engine = (stage.bench.engine.run signals).2 := by
  induction signals generalizing stage with
  | nil => rfl
  | cons signal rest ih => exact ih _

/-- The dispatches of a replay are those of its signals on the engine. -/
theorem firings_play (signals : List Signal) :
    (stage.play signals).value.firings = stage.firings ++ (stage.bench.engine.run signals).1 := by
  induction signals generalizing stage with
  | nil => exact (append_nil _).symm
  | cons signal rest ih =>
    rw [value_play_cons, ih, value_next, append_assoc, Registry.run_cons]
    rfl

theorem deeds_play (signals : List Signal) :
    (stage.play signals).deeds = (stage.bench.engine.dispatchAll signals).deeds := by
  induction signals generalizing stage with
  | nil => rfl
  | cons signal rest ih =>
    rw [play, Acted.deeds_bind, ih, deeds_next, Registry.deeds_dispatchAll_cons]
    rfl

theorem value_play_append (front back : List Signal) :
    (stage.play (front ++ back)).value = ((stage.play front).value.play back).value := by
  induction front generalizing stage with
  | nil => rfl
  | cons signal rest ih => exact ih _

theorem deeds_play_append (front back : List Signal) :
    (stage.play (front ++ back)).deeds =
      (stage.play front).deeds ++ ((stage.play front).value.play back).deeds := by
  rw [deeds_play, Registry.deeds_dispatchAll_append, ← engine_play, deeds_play, deeds_play]

/-- After a dispatch, nothing is left in the log. -/
theorem log_play_of_ne_nil {signals : List Signal} (h : signals ≠ []) :
    (stage.play signals).value.bench.log = [] := by
  obtain ⟨front, last, rfl⟩ := (eq_nil_or_concat' signals).resolve_left h
  rw [value_play_append]
  rfl

end Stage

/-! ## Lines -/

/-- The lines of dispatches, of which the first comes after `before` others and finds `waiting` in
the log. Each shows the calls that are in the log after its dispatch. -/
def lines (engine : Registry σ) (before : Nat) (waiting : List ProbeCall) :
    List Signal → List ReplayRow
  | [] => []
  | signal :: rest =>
    ⟨before + 1, signal.channel, (engine.fire signal).1.verdict?,
      (waiting ++ (engine.dispatch signal).deeds.filterMap Deed.recorded?).map
        ProbeCall.feature⟩ :: lines (engine.fire signal).2 (before + 1) [] rest

theorem rows_play (stage : Stage σ) (signals : List Signal) :
    (stage.play signals).value.rows = stage.rows ++
      lines stage.bench.engine stage.rows.length stage.bench.log signals := by
  induction signals generalizing stage with
  | nil => exact (append_nil _).symm
  | cons signal rest ih =>
    rw [Stage.value_play_cons, ih, Stage.value_next, append_assoc, lines, Bench.log_dispatch,
      length_append]
    rfl

section Lines

variable (engine : Registry σ) (before : Nat) (waiting : List ProbeCall) (signals : List Signal)

theorem map_step_lines : (lines engine before waiting signals).map ReplayRow.step =
    range' (before + 1) signals.length := by
  induction signals generalizing engine before waiting with
  | nil => rfl
  | cons signal rest ih => rw [lines, map_cons, ih, length_cons, range'_succ]

theorem map_verdict?_lines :
    (lines engine before waiting signals).map (fun row => (row.channel, row.verdict?)) =
      (engine.run signals).1.map fun firing => (firing.channel, firing.verdict?) := by
  induction signals generalizing engine before waiting with
  | nil => rfl
  | cons signal rest ih =>
    rw [lines, map_cons, ih, Registry.run_cons, map_cons]
    rfl

/-- Each line has the calls recorded in its dispatch, and the first one also those that were
recorded before. -/
theorem getElem?_lines (front : List Signal) (signal : Signal) (back : List Signal) :
    (lines engine before waiting (front ++ signal :: back))[front.length]? =
      some ⟨before + front.length + 1, signal.channel,
        ((engine.run front).2.fire signal).1.verdict?,
        ((if front = [] then waiting else []) ++
          ((engine.run front).2.dispatch signal).deeds.filterMap Deed.recorded?).map
            ProbeCall.feature⟩ := by
  induction front generalizing engine before waiting with
  | nil => rfl
  | cons first rest ih =>
    rw [cons_append, lines, length_cons, getElem?_cons_succ, ih, if_neg (cons_ne_nil _ _),
      Registry.run_cons, ite_self]
    congr 2
    omega

/-- Where the hooks record the calls made to them, the lines show who was called. -/
theorem map_invoked_lines {engine : Registry σ} (h : engine.Recording) :
    (lines engine before [] signals).map ReplayRow.invoked =
      (engine.run signals).1.map Firing.features := by
  induction signals generalizing engine before with
  | nil => rfl
  | cons signal rest ih =>
    rw [lines, map_cons, ih _ (h.fire signal), Registry.run_cons, map_cons, nil_append,
      h.recorded_dispatch, map_map]
    rfl

end Lines

/-! ## Parts of a replay -/

/-- From `stage` on, a part of a replay dispatches exactly `signals`, each on its own channel, and
ends with `a`. -/
def Performs {α : Type} (part : Run σ α) (stage : Stage σ) (signals : List Signal) (a : α) :
    Prop :=
  part stage = ⟨(a, (stage.play signals).value), (stage.play signals).deeds⟩

theorem performs_pure {α : Type} (a : α) (stage : Stage σ) : Performs (pure a) stage [] a := rfl

/-- Whether the signal would not be refused. -/
def Stage.admits (stage : Stage σ) (signal : Signal) : Bool :=
  (stage.bench.engine.fire signal).1.admitted

theorem performs_step (signal : Signal) (stage : Stage σ) :
    Performs (step signal.channel signal) stage [signal] (stage.admits signal) := by
  have hdeeds : (step signal.channel signal stage).deeds = (stage.play [signal]).deeds := by
    rw [Stage.play, Acted.deeds_bind, Stage.next, Acted.deeds_bind, append_assoc]
    exact (append_nil _).symm
  exact congrArg (Acted.mk _) hdeeds

/-- A part that goes on with another dispatches the signals of both. -/
theorem Performs.bind {α β : Type} {part : Run σ α} {next : α → Run σ β} {stage : Stage σ}
    {front back : List Signal} {a : α} {b : β} (h : Performs part stage front a)
    (hnext : Performs (next a) (stage.play front).value back b) :
    Performs (part >>= next) stage (front ++ back) b := by
  have hbind : (part >>= next) stage =
      part stage >>= fun reached => next reached.1 reached.2 := rfl
  have hlater : next a (stage.play front).value = _ := hnext
  have hreached : (part stage >>= fun reached => next reached.1 reached.2) =
      ⟨(next a (stage.play front).value).value,
        (stage.play front).deeds ++ (next a (stage.play front).value).deeds⟩ := by
    rw [show part stage = _ from h]
    rfl
  rw [Performs, hbind, hreached, hlater, Stage.value_play_append, Stage.deeds_play_append]

theorem performs_step_bind {β : Type} {signal : Signal} {next : Bool → Run σ β}
    {stage : Stage σ} {signals : List Signal} {b : β}
    (h : Performs (next (stage.admits signal)) (stage.next signal).value signals b) :
    Performs (step signal.channel signal >>= next) stage (signal :: signals) b :=
  (performs_step signal stage).bind h

variable {plan : Plan} {stage : Stage σ}

theorem performs_failed :
    Performs (failed plan) stage
      [⟨.txFailed, (⟨plan.frame, plan.error⟩ : FailedAttempt)⟩] () :=
  performs_step_bind (performs_pure () _)

theorem performs_onAir_of_ack (h : plan.frame.ackRequested = true) :
    Performs (onAir plan) stage
      [⟨.transmitted, plan.frame⟩, ⟨.rxAckStarted, ()⟩, ⟨.rxStarted, plan.frame⟩] () := by
  simp only [onAir, h, if_true]
  exact performs_step_bind (performs_step_bind (performs_step_bind (performs_pure () _)))

theorem performs_onAir_of_not_ack (h : plan.frame.ackRequested = false) :
    Performs (onAir plan) stage
      [⟨.transmitted, plan.frame⟩, ⟨.rxStarted, plan.frame⟩] () := by
  simp only [onAir, h, Bool.false_eq_true, if_false]
  exact performs_step_bind (performs_step_bind (performs_pure () _))

/-- On the air, the frame asks for an acknowledgement or not. -/
theorem exists_performs_started (stage : Stage σ) (plan : Plan) (started : Bool) :
    ∃ course, Course plan true started (⟨.txStarted, plan.frame⟩ :: course) ∧
      Performs (if started then onAir plan else failed plan) stage course () := by
  cases started with
  | false => exact ⟨_, .vetoed, performs_failed⟩
  | true =>
    cases hack : plan.frame.ackRequested with
    | true => exact ⟨_, .acknowledged (Frame.ackRequested_iff.mp hack), performs_onAir_of_ack hack⟩
    | false =>
      have hno : ¬plan.frame.AsksForAck := by
        rw [← Frame.ackRequested_iff, hack]
        exact Bool.false_ne_true
      exact ⟨_, .unacknowledged hno, performs_onAir_of_not_ack hack⟩

/-- Whatever the engine answers to its start, the attempt takes one of the courses. -/
theorem exists_performs_transmission (stage : Stage σ) (plan : Plan) (admitted : Bool) :
    ∃ course, Course plan admitted (stage.admits ⟨.txStarted, plan.frame⟩) course ∧
      Performs (transmission plan admitted) stage course () := by
  cases admitted with
  | false => exact ⟨_, .deferred _, performs_failed⟩
  | true =>
    obtain ⟨course, hcourse, hperforms⟩ := exists_performs_started
      (stage.next ⟨.txStarted, plan.frame⟩).value plan (stage.admits ⟨.txStarted, plan.frame⟩)
    exact ⟨_, hcourse, performs_step_bind hperforms⟩

theorem performs_ending : Performs (ending plan) stage (closing plan) () :=
  performs_step_bind (performs_step_bind (performs_pure () _))

/-! ## The whole attempt -/

variable {bench : Bench σ}

/-- Whether the engine admits the attempt. -/
def admission (engine : Registry σ) (plan : Plan) : Bool :=
  ((engine.run [⟨.prioChanged, (⟨.idle, plan.granted⟩ : PriorityChange)⟩]).2.fire
    ⟨.preTransmission, (⟨plan.frame, true, .report⟩ : Attempt)⟩).1.admitted

/-- Whether the engine would admit the start of the attempt. -/
def admitsStart (engine : Registry σ) (plan : Plan) : Bool :=
  ((engine.run (opening plan (admission engine plan))).2.fire
    ⟨.txStarted, plan.frame⟩).1.admitted

theorem performs_beginning (stage : Stage σ) (plan : Plan) :
    Performs (beginning plan) stage (opening plan (admission stage.bench.engine plan))
      (admission stage.bench.engine plan) :=
  performs_step_bind (performs_step_bind (performs_step_bind (performs_pure _ _)))

/-- The attempt dispatches the signals of the course that is left open by the answers. -/
theorem exists_run_eq (bench : Bench σ) (plan : Plan) :
    ∃ course, Course plan (admission bench.engine plan) (admitsStart bench.engine plan) course ∧
      run bench plan =
        Stage.play { bench } (signals plan (admission bench.engine plan) course) := by
  obtain ⟨course, hcourse, hmiddle⟩ := exists_performs_transmission
    (Stage.play { bench } (opening plan (admission bench.engine plan))).value plan
      (admission bench.engine plan)
  have hstart : (Stage.play { bench } (opening plan (admission bench.engine plan))).value.admits
      ⟨.txStarted, plan.frame⟩ = admitsStart bench.engine plan := by
    rw [Stage.admits, Stage.engine_play, admitsStart]
  have hattempt : Performs (attempt plan) { bench }
      (signals plan (admission bench.engine plan) course) () :=
    (performs_beginning { bench } plan).bind (hmiddle.bind performs_ending)
  refine ⟨course, hstart ▸ hcourse, ?_⟩
  rw [run, hattempt]
  exact congrArg (Acted.mk _) (append_nil _)

namespace Course

variable {admitted started : Bool} {course : List Signal}

/-- Between its beginning and its end, an attempt is asked for no admission. -/
theorem channel_ne_preTransmission (h : Course plan admitted started course) :
    ∀ signal ∈ course ++ closing plan, signal.channel ≠ .preTransmission := by
  cases h <;> simp [closing]

/-- Only what was admitted starts, and it starts once. -/
theorem txStarted_cases (h : Course plan admitted started course) :
    (∀ signal ∈ signals plan admitted course, signal.channel ≠ .txStarted) ∨
      admitted = true ∧ ∃ rest, course = ⟨.txStarted, plan.frame⟩ :: rest ∧
        ∀ signal ∈ rest ++ closing plan, signal.channel ≠ .txStarted := by
  cases h with
  | deferred => simp [signals, opening, closing]
  | vetoed | acknowledged | unacknowledged => exact .inr ⟨rfl, _, rfl, by simp [closing]⟩

/-- The frame is told of as transmitted or as failed, and never as both. -/
theorem transmitted_iff (h : Course plan admitted started course) :
    (∃ signal ∈ signals plan admitted course, signal.channel = .transmitted) ↔
      ¬∃ signal ∈ signals plan admitted course, signal.channel = .txFailed := by
  cases h <;> simp [signals, opening, closing]

end Course

/-! ## Answers -/

theorem firings_of_run_eq {fired : List Signal} (h : run bench plan = Stage.play { bench } fired) :
    (run bench plan).value.firings = (bench.engine.run fired).1 := by
  rw [h, Stage.firings_play, nil_append]

theorem verdict?_preTransmission {firing : Firing} (hmem : firing ∈ (run bench plan).value.firings)
    (hc : firing.channel = .preTransmission) :
    firing.verdict? = some (admission bench.engine plan) := by
  obtain ⟨course, hcourse, hrun⟩ := exists_run_eq bench plan
  rw [firings_of_run_eq hrun] at hmem
  have hfiring := Registry.eq_fire_of_mem_run
    [⟨.prioChanged, (⟨.idle, plan.granted⟩ : PriorityChange)⟩] _ _ hmem hc (by simp)
    (by simpa using hcourse.channel_ne_preTransmission)
  rw [hfiring]
  exact Registry.verdict?_fire_eq_some_admitted _ _ rfl

theorem verdict?_txStarted {firing : Firing} (hmem : firing ∈ (run bench plan).value.firings)
    (hc : firing.channel = .txStarted) :
    admission bench.engine plan = true ∧
      firing.verdict? = some (admitsStart bench.engine plan) := by
  obtain ⟨course, hcourse, hrun⟩ := exists_run_eq bench plan
  rw [firings_of_run_eq hrun] at hmem
  rcases hcourse.txStarted_cases with hno | ⟨hadmitted, rest, rfl, hrest⟩
  · exact absurd hc (hno _ (Registry.mem_signals_of_mem_run hmem))
  · refine ⟨hadmitted, ?_⟩
    have hfiring := Registry.eq_fire_of_mem_run (opening plan (admission bench.engine plan))
      ⟨.txStarted, plan.frame⟩ (rest ++ closing plan) hmem hc (by simp [opening]) hrest
    rw [hfiring]
    exact Registry.verdict?_fire_eq_some_admitted _ _ rfl

/-- Nothing starts before the attempt was admitted. -/
theorem exists_admitted_before {front back : List Firing} {firing : Firing}
    (hsplit : (run bench plan).value.firings = front ++ firing :: back)
    (hc : firing.channel = .txStarted) :
    ∃ earlier ∈ front, earlier.channel = .preTransmission ∧ earlier.verdict? = some true := by
  have hmem : firing ∈ (run bench plan).value.firings := by simp [hsplit]
  have hadmitted : admission bench.engine plan = true := (verdict?_txStarted hmem hc).1
  obtain ⟨course, -, hrun⟩ := exists_run_eq bench plan
  -- Two signals come first, and neither of them is a start.
  obtain ⟨first, second, later, hfirst, hsecond, hlist⟩ : ∃ first second later,
      first.channel = .prioChanged ∧ second.channel = .preTransmission ∧
        (run bench plan).value.firings = first :: second :: later := by
    rw [firings_of_run_eq hrun]
    exact ⟨_, _, _, rfl, rfl, rfl⟩
  have hverdict : second.verdict? = some true := by
    rw [← hadmitted]
    exact verdict?_preTransmission (by simp [hlist]) hsecond
  rw [hlist] at hsplit
  match front with
  | [] =>
    obtain ⟨rfl, -⟩ := cons.inj hsplit
    simp [hfirst] at hc
  | [_] =>
    obtain ⟨-, hrest⟩ := cons.inj hsplit
    obtain ⟨rfl, -⟩ := cons.inj hrest
    simp [hsecond] at hc
  | _ :: earlier :: _ =>
    obtain ⟨-, hrest⟩ := cons.inj hsplit
    obtain ⟨rfl, -⟩ := cons.inj hrest
    exact ⟨second, by simp, hsecond, hverdict⟩

/-! ## Rows -/

theorem rows_of_run_eq {fired : List Signal} (h : run bench plan = Stage.play { bench } fired) :
    (run bench plan).value.rows = lines bench.engine 0 bench.log fired := by
  rw [h, rows_play]
  exact nil_append _

theorem map_verdict?_rows (bench : Bench σ) (plan : Plan) :
    (run bench plan).value.rows.map (fun row => (row.channel, row.verdict?)) =
      (run bench plan).value.firings.map fun firing => (firing.channel, firing.verdict?) := by
  obtain ⟨course, -, hrun⟩ := exists_run_eq bench plan
  rw [rows_of_run_eq hrun, firings_of_run_eq hrun, map_verdict?_lines]

theorem exists_firing_of_mem_rows {row : ReplayRow} (h : row ∈ (run bench plan).value.rows) :
    ∃ firing ∈ (run bench plan).value.firings,
      row.channel = firing.channel ∧ row.verdict? = firing.verdict? := by
  have hshown := mem_map_of_mem (f := fun row : ReplayRow => (row.channel, row.verdict?)) h
  rw [map_verdict?_rows] at hshown
  obtain ⟨firing, hmem, he⟩ := mem_map.mp hshown
  obtain ⟨hc, hv⟩ := Prod.mk.inj he
  exact ⟨firing, hmem, hc.symm, hv.symm⟩

theorem exists_mem_rows_of_mem {firing : Firing} (h : firing ∈ (run bench plan).value.firings) :
    ∃ row ∈ (run bench plan).value.rows,
      row.channel = firing.channel ∧ row.verdict? = firing.verdict? := by
  have hshown := mem_map_of_mem (f := fun firing : Firing => (firing.channel, firing.verdict?)) h
  rw [← map_verdict?_rows] at hshown
  obtain ⟨row, hmem, he⟩ := mem_map.mp hshown
  exact ⟨row, hmem, (Prod.mk.inj he).1, (Prod.mk.inj he).2⟩

/-- There is a row for the request for admission. -/
theorem exists_preTransmission_row (bench : Bench σ) (plan : Plan) :
    ∃ row ∈ (run bench plan).value.rows, row.channel = .preTransmission := by
  have hfiring : ∃ firing ∈ (run bench plan).value.firings,
      firing.channel = .preTransmission := by
    obtain ⟨course, -, hrun⟩ := exists_run_eq bench plan
    rw [firings_of_run_eq hrun, Registry.exists_channel_run_iff]
    exact ⟨⟨.preTransmission, (⟨plan.frame, true, .report⟩ : Attempt)⟩,
      by simp [signals, opening], rfl⟩
  obtain ⟨firing, hmem, hc⟩ := hfiring
  obtain ⟨row, hrow, hchannel, -⟩ := exists_mem_rows_of_mem hmem
  exact ⟨row, hrow, hchannel.trans hc⟩

/-- A row has a dash for a verdict exactly on a channel where nobody is asked. -/
theorem verdictText_eq_dash_iff {row : ReplayRow} (h : row ∈ (run bench plan).value.rows) :
    row.verdictText = "-" ↔ row.channel.policy = .broadcast := by
  obtain ⟨firing, hmem, hc, hv⟩ := exists_firing_of_mem_rows h
  obtain ⟨course, -, hrun⟩ := exists_run_eq bench plan
  rw [firings_of_run_eq hrun] at hmem
  rw [hc, ← Registry.verdict?_eq_none_iff_of_mem_run hmem, ← hv, ReplayRow.verdictText]
  cases row.verdict? with
  | none => simp
  | some verdict => cases verdict <;> simp

/-- Where the hooks record the calls made to them and nothing is in the log before, the rows show
who was called. -/
theorem map_invoked_rows (h : bench.engine.Recording) (hlog : bench.log = []) (plan : Plan) :
    (run bench plan).value.rows.map ReplayRow.invoked =
      (run bench plan).value.firings.map Firing.features := by
  obtain ⟨course, -, hrun⟩ := exists_run_eq bench plan
  rw [rows_of_run_eq hrun, firings_of_run_eq hrun, hlog, map_invoked_lines _ _ h]

/-! ## Replays -/

/-- How a replay goes, given what the engine answered when it was asked for admission and, if it
came to that, for the start. -/
structure AttemptSpec (bench : Bench σ) (plan : Plan) (admitted started : Bool)
    (course : List Signal) : Prop where
  follows : Course plan admitted started course
  firings_eq : (run bench plan).value.firings =
    (bench.engine.run (signals plan admitted course)).1
  signals_eq : (run bench plan).value.firings.map Firing.signal = signals plan admitted course
  /-- Nothing is done besides the dispatches. -/
  deeds_eq : (run bench plan).deeds =
    (bench.engine.dispatchAll (signals plan admitted course)).deeds
  engine_eq : (run bench plan).value.bench.engine =
    (bench.engine.run (signals plan admitted course)).2
  admitted_eq : ∀ firing ∈ (run bench plan).value.firings, firing.channel = .preTransmission →
    firing.verdict? = some admitted
  started_eq : ∀ firing ∈ (run bench plan).value.firings, firing.channel = .txStarted →
    firing.verdict? = some started
  /-- The frame is told of as transmitted or as failed, and never as both. -/
  outcome : (∃ firing ∈ (run bench plan).value.firings, firing.channel = .transmitted) ↔
    ¬∃ firing ∈ (run bench plan).value.firings, firing.channel = .txFailed
  started_after : ∀ front firing back,
    (run bench plan).value.firings = front ++ firing :: back → firing.channel = .txStarted →
      ∃ earlier ∈ front, earlier.channel = .preTransmission ∧ earlier.verdict? = some true
  steps_eq : (run bench plan).value.rows.map ReplayRow.step =
    range' 1 (run bench plan).value.firings.length
  rows_eq : (run bench plan).value.rows.map (fun row => (row.channel, row.verdict?)) =
    (run bench plan).value.firings.map fun firing => (firing.channel, firing.verdict?)
  /-- A row shows the calls that are recorded in its dispatch. The first one also shows those that
  were in the log before. -/
  invoked_eq : ∀ front signal back, signals plan admitted course = front ++ signal :: back →
    ∃ row, (run bench plan).value.rows[front.length]? = some row ∧
      row.invoked = ((if front = [] then bench.log else []) ++
        ((bench.engine.run front).2.dispatch signal).deeds.filterMap Deed.recorded?).map
          ProbeCall.feature
  drained : (run bench plan).value.bench.log = []
  called_eq : bench.engine.Recording → bench.log = [] →
    (run bench plan).value.rows.map ReplayRow.invoked =
      (run bench plan).value.firings.map Firing.features
  dash_iff : ∀ row ∈ (run bench plan).value.rows,
    row.verdictText = "-" ↔ row.channel.policy = .broadcast

/-- Whatever the hooks of the engine do, the replay of an attempt honours their verdicts. -/
theorem verdicts_honoured (bench : Bench σ) (plan : Plan) :
    ∃ admitted started course, AttemptSpec bench plan admitted started course := by
  obtain ⟨course, hcourse, hrun⟩ := exists_run_eq bench plan
  have hfirings := firings_of_run_eq hrun
  have hrows := rows_of_run_eq hrun
  refine ⟨admission bench.engine plan, admitsStart bench.engine plan, course, ?_⟩
  exact {
    follows := hcourse
    firings_eq := hfirings
    signals_eq := by rw [hfirings, Registry.map_signal_run]
    deeds_eq := by rw [hrun, Stage.deeds_play]
    engine_eq := by rw [hrun, Stage.engine_play]
    admitted_eq := fun _ hmem hc => verdict?_preTransmission hmem hc
    started_eq := fun _ hmem hc => (verdict?_txStarted hmem hc).2
    outcome := by
      rw [hfirings, Registry.exists_channel_run_iff, Registry.exists_channel_run_iff]
      exact hcourse.transmitted_iff
    started_after := fun _ _ _ hsplit hc => exists_admitted_before hsplit hc
    steps_eq := by
      have hlength := congrArg length (Registry.map_signal_run bench.engine
        (signals plan (admission bench.engine plan) course))
      rw [hrows, map_step_lines, hfirings, ← hlength, length_map]
    rows_eq := map_verdict?_rows bench plan
    invoked_eq := fun front signal back hsplit => by
      rw [hrows, hsplit]
      exact ⟨_, getElem?_lines _ _ _ front signal back, rfl⟩
    drained := by
      rw [hrun]
      exact Stage.log_play_of_ne_nil _ (cons_ne_nil _ _)
    called_eq := fun h hlog => map_invoked_rows h hlog plan
    dash_iff := fun _ hmem => verdictText_eq_dash_iff hmem }

end Replay

end MacDispatch
