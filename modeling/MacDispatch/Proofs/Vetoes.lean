import MacDispatch.Proofs.Attempts
import MacDispatch.Proofs.Documents

/-! # Vetoes

Main statement: the veto of a feature shows in a replay exactly if the feature is on. One that is
on refuses at least to let the operation in progress end; one that is off is never asked, and
nothing that is done with a bench of probes tells it from no veto at all. So a rehearsal warns of
a veto exactly if its rows are those without the veto. -/

namespace MacDispatch

open List

/-! ## What is written -/

theorem ReplayRow.verdictText_eq_false_iff {row : ReplayRow} :
    row.verdictText = "false" ↔ row.verdict? = some false := by
  rw [verdictText]
  cases row.verdict? with
  | none => decide
  | some verdict => cases verdict <;> decide

/-- A list on the standard output does not begin like a warning. -/
theorem Output.exists_head?_toList_list (format : OutputFormat) (table : Table)
    (items : List Json) :
    ∃ first, (list format table (.array items)).toList.head? = some first ∧ first ≠ '⚠' := by
  cases format with
  | json => exact ⟨'[', by simp [list, line, Json.head?_toList_pretty_array], by decide⟩
  | table =>
    rw [list, line]
    split
    · exact ⟨'N', by simp, by decide⟩
    · exact ⟨'+', by simp [Table.head?_toList_draw], by decide⟩

/-- So it is no warning, whatever else is written. -/
theorem Output.list_append_ne_warning_append (format : OutputFormat) (table : Table)
    (items : List Json) (closing message rest : String) :
    list format table (.array items) ++ closing ≠ warning message ++ rest := by
  obtain ⟨first, hfirst, hne⟩ := exists_head?_toList_list format table items
  intro he
  have hhead := congrArg (fun text : String => text.toList.head?) he
  simp only [String.toList_append, head?_append, hfirst, toList_warning, head?_cons] at hhead
  exact hne (Option.some.inj hhead)

namespace Probe

/-! ## A veto that is off -/

theorem engine_of_off {features : FeatureSet} {v : Feature}
    (h : v.isEnabledIn features = false) :
    engine features (some v) = engine features none := by
  refine Registry.eq_of_table_eq rfl fun c => map_congr_left fun feature hmem => ?_
  -- Whoever is listed is on, so it is not the one that vetoes.
  have hne : v ≠ feature := by
    rintro rfl
    exact Bool.false_ne_true (h.symm.trans (Feature.mem_candidates.mp hmem).1)
  have hspared : ofVeto (some v) feature = ofVeto none feature := by simp [ofVeto, hne]
  rw [candidate, candidate, hspared]

/-! ## A veto that is on -/

variable {features : FeatureSet} {v : Feature} {plan : Replay.Plan}

theorem verdict?_fire_of_no_veto {signal : Signal} (hp : signal.channel.policy = .consent) :
    ((engine features none).fire signal).1.verdict? = some true :=
  (fire_of_granted hp (by simp)).1

/-- Whoever vetoes and is on does not let the higher layer end the operation in progress. -/
theorem verdict?_fire_terminate (h : v.isEnabledIn features = true) :
    ((engine features (some v)).fire
      ⟨.terminate, (⟨.ieee802154, .higherLayer⟩ : Termination)⟩).1.verdict? = some false := by
  -- Every feature is asked about an end, and none of them speaks for the higher layer.
  have hlisted : v ∈ Feature.candidates .terminate features :=
    Feature.mem_candidates.mpr ⟨h, by cases v <;> decide⟩
  obtain ⟨front, back, hsplit, hfront⟩ := eq_append_cons_of_mem hlisted
  have hinsists : v.Insists ⟨.terminate, (⟨.ieee802154, .higherLayer⟩ : Termination)⟩ :=
    ⟨rfl, by cases v <;> decide⟩
  exact (fire_of_vetoed rfl rfl hinsists hsplit hfront).1

theorem verdict?_ne_of_mem_rows_of_no_veto {row : ReplayRow}
    (h : row ∈ (Replay.run { engine := engine features none } plan).value.rows) :
    row.verdict? ≠ some false := by
  obtain ⟨firing, hfiring, -, hverdict⟩ := Replay.exists_firing_of_mem_rows h
  obtain ⟨course, -, hrun⟩ := Replay.exists_run_eq { engine := engine features none } plan
  rw [Replay.firings_of_run_eq hrun, Registry.fst_run_of_subsingleton] at hfiring
  obtain ⟨signal, -, rfl⟩ := mem_map.mp hfiring
  rw [hverdict]
  cases hp : signal.channel.policy with
  | broadcast => simp [Registry.verdict?_fire_of_broadcast _ _ hp]
  | consent => simp [verdict?_fire_of_no_veto hp]

/-- Whatever course the attempt takes, the operation in progress is asked to end. -/
theorem exists_refused_row (h : v.isEnabledIn features = true) (plan : Replay.Plan) :
    ∃ row ∈ (Replay.run { engine := engine features (some v) } plan).value.rows,
      row.verdict? = some false := by
  obtain ⟨course, -, hrun⟩ := Replay.exists_run_eq { engine := engine features (some v) } plan
  have hfiring : ((engine features (some v)).fire
      ⟨.terminate, (⟨.ieee802154, .higherLayer⟩ : Termination)⟩).1 ∈
        (Replay.run { engine := engine features (some v) } plan).value.firings := by
    rw [Replay.firings_of_run_eq hrun, Registry.fst_run_of_subsingleton]
    exact mem_map_of_mem (f := fun signal => ((engine features (some v)).fire signal).1)
      (by simp [Replay.signals, Replay.closing])
  obtain ⟨row, hrow, -, hverdict⟩ := Replay.exists_mem_rows_of_mem hfiring
  exact ⟨row, hrow, hverdict.trans (verdict?_fire_terminate h)⟩

theorem rows_table_ne_of_on (h : v.isEnabledIn features = true) (plan : Replay.Plan) :
    (ReplayRow.table
        (Replay.run { engine := engine features (some v) } plan).value.rows).rows ≠
      (ReplayRow.table (Replay.run { engine := engine features none } plan).value.rows).rows := by
  obtain ⟨row, hrow, hverdict⟩ := exists_refused_row h plan
  -- The cells of the refused row would be those of a row of the other replay.
  have hcells := mem_map_of_mem (f := fun row : ReplayRow =>
    [toString row.step, row.channel.name, row.verdictText, row.invokedText]) hrow
  simp only [ReplayRow.table]
  intro hsame
  rw [hsame] at hcells
  obtain ⟨other, hother, hequal⟩ := mem_map.mp hcells
  simp only [cons.injEq] at hequal
  refine verdict?_ne_of_mem_rows_of_no_veto hother ?_
  rw [← ReplayRow.verdictText_eq_false_iff, hequal.2.2.1, ReplayRow.verdictText_eq_false_iff]
  exact hverdict

end Probe

/-! ## The warning -/

namespace Cli

/-- Before anything else, the command warns that a veto is never asked for. -/
def Execution.Warns (execution : Execution) (v : Feature) : Prop :=
  ∃ rest, execution.output = Output.warning
    ("'" ++ v.name ++ "' is disabled, its veto will never be consulted") ++ rest

namespace Workplace

theorem exists_value_rehearse (place : Workplace) (plan : RehearsalPlan) :
    ∃ closing, (place.rehearse plan).value = .ofOutput (vetoWarning place.features plan.veto? ++
      ReplayRow.list place.format
        (Replay.run { engine := Probe.engine place.features plan.veto? }
          ⟨sampleFrame, plan.granted, plan.error⟩).value.rows ++ closing) := by
  simp only [rehearse, Traced.value_bind, ProbeBench.value_assemble]
  exact ⟨_, rfl⟩

/-- The warning comes exactly if the feature that vetoes is off. -/
theorem warns_rehearse_iff {place : Workplace} {plan : RehearsalPlan} {v : Feature}
    (h : plan.veto? = some v) :
    (place.execute (.rehearse plan)).value.Warns v ↔ v.isEnabledIn place.features = false := by
  obtain ⟨closing, hvalue⟩ := place.exists_value_rehearse plan
  rw [execute, hvalue, h]
  cases hon : v.isEnabledIn place.features with
  | false =>
    rw [vetoWarning_of_off hon, String.append_assoc]
    exact iff_of_true ⟨_, rfl⟩ rfl
  | true =>
    refine iff_of_false ?_ (Bool.false_ne_true ∘ Eq.symm)
    rintro ⟨rest, houtput⟩
    rw [vetoWarning_eq_empty (by simpa using hon), String.empty_append] at houtput
    exact Output.list_append_ne_warning_append _ _ _ _ _ _ houtput

end Workplace

end Cli

namespace ProbeBench

/-! ## Vetoes -/

/-- What tells a bench with a veto from one without any. -/
structure VetoSpec (features : FeatureSet) (v : Feature) (vetoed plain : ProbeBench) : Prop where
  rows_eq_iff : ∀ plan : Replay.Plan,
    (Replay.run vetoed plan).value.rows = (Replay.run plain plan).value.rows ↔
      v.isEnabledIn features = false
  /-- It is the same with the rows as they are written. -/
  written_eq_iff : ∀ plan : Replay.Plan,
    (ReplayRow.table (Replay.run vetoed plan).value.rows).rows =
        (ReplayRow.table (Replay.run plain plan).value.rows).rows ↔
      v.isEnabledIn features = false
  warned_iff : ∀ (place : Cli.Workplace) (plan : Cli.RehearsalPlan), place.features = features →
    plan.veto? = some v →
      ((place.execute (.rehearse plan)).value.Warns v ↔ v.isEnabledIn features = false)
  replies_eq : v.isEnabledIn features = false → ∀ acts, vetoed.replies acts = plain.replies acts
  deeds_eq : v.isEnabledIn features = false → ∀ acts, vetoed.deeds acts = plain.deeds acts
  log_eq : v.isEnabledIn features = false →
    ∀ acts, (vetoed.performAll acts).log = (plain.performAll acts).log

/-- A veto shows in a replay exactly if the feature is on; if it is off, it never shows. -/
theorem veto_shows_iff_on (features : FeatureSet) (v : Feature) :
    ∃ vetoed plain, (assemble features (some v)).value = .ok vetoed ∧
      (assemble features none).value = .ok plain ∧ VetoSpec features v vetoed plain := by
  refine ⟨_, _, value_assemble features (some v), value_assemble features none, ?_⟩
  cases hon : v.isEnabledIn features with
  | false =>
    rw [Probe.engine_of_off hon]
    exact ⟨fun _ => iff_of_true rfl hon, fun _ => iff_of_true rfl hon,
      fun place plan hplace hveto => by rw [Cli.Workplace.warns_rehearse_iff hveto, hplace],
      fun _ _ => rfl, fun _ _ => rfl, fun _ _ => rfl⟩
  | true =>
    have hnot : ¬v.isEnabledIn features = false := by simp [hon]
    exact ⟨fun plan => iff_of_false
        (fun hsame => Probe.rows_table_ne_of_on hon plan (by rw [hsame])) hnot,
      fun plan => iff_of_false (Probe.rows_table_ne_of_on hon plan) hnot,
      fun place plan hplace hveto => by rw [Cli.Workplace.warns_rehearse_iff hveto, hplace],
      fun hoff => absurd hoff hnot, fun hoff => absurd hoff hnot, fun hoff => absurd hoff hnot⟩

end ProbeBench

end MacDispatch
