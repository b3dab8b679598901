import MacDispatch.Proofs.Freezing
import MacDispatch.Rehearsal.Script

/-! # Frozen tables

Main statement: registrations freeze exactly when no feature that is on is registered twice on a
channel, and the tables then hold the registrations made under features that are on, each on its
own channel and in rank order. -/

namespace MacDispatch

open List

variable {σ : Type}

/-- How often a feature is registered on a channel. -/
def Registration.tally (registrations : List (Registration σ)) (feature : Feature) (c : Channel) :
    Nat :=
  registrations.countP fun registration =>
    registration.feature == feature && registration.channel == c

namespace Draft

/-- The draft after registrations, from an empty one on. -/
def ofRegistrations (features : FeatureSet) (registrations : List (Registration σ)) : Draft σ :=
  ((empty features).registerAll registrations).value

variable {features : FeatureSet} (registrations : List (Registration σ))

@[simp] theorem features_ofRegistrations :
    (ofRegistrations features registrations).features = features :=
  features_registerAll _ _

theorem map_pending_ofRegistrations (c : Channel) :
    ((ofRegistrations features registrations).pending c).map Candidate.registration =
      registrations.filter (·.joins features c) := by
  rw [ofRegistrations, map_pending_registerAll]
  rfl

theorem map_feature_pending_ofRegistrations (c : Channel) :
    ((ofRegistrations features registrations).pending c).map Candidate.feature =
      (registrations.filter (·.joins features c)).map Registration.feature := by
  rw [← map_pending_ofRegistrations, List.map_map]
  rfl

theorem count_pending_ofRegistrations (c : Channel) (feature : Feature) :
    (((ofRegistrations features registrations).pending c).map Candidate.feature).count feature =
      if feature.isEnabledIn features then Registration.tally registrations feature c else 0 := by
  rw [map_feature_pending_ofRegistrations, count_eq_countP, countP_map, countP_filter,
    Registration.tally]
  by_cases hon : feature.isEnabledIn features = true
  · rw [if_pos hon]
    refine countP_congr fun registration _ => ?_
    simp only [Registration.joins, Function.comp_apply, Bool.and_eq_true, beq_iff_eq]
    constructor
    · exact fun h => ⟨h.1, h.2.2⟩
    · rintro ⟨rfl, hc⟩
      exact ⟨rfl, hon, hc⟩
  · rw [if_neg hon]
    refine countP_eq_zero.mpr fun registration _ h => ?_
    simp only [Registration.joins, Function.comp_apply, Bool.and_eq_true, beq_iff_eq] at h
    exact hon (h.1 ▸ h.2.1)

/-- Tables have no feature twice exactly when none that is on is registered twice. -/
theorem nodup_pending_ofRegistrations_iff :
    (∀ c, (((ofRegistrations features registrations).pending c).map Candidate.feature).Nodup) ↔
      ∀ c feature, feature.isEnabledIn features = true →
        Registration.tally registrations feature c ≤ 1 := by
  refine forall_congr' fun c => ?_
  rw [nodup_iff_count]
  refine forall_congr' fun feature => ?_
  rw [count_pending_ofRegistrations]
  by_cases h : feature.isEnabledIn features = true <;> simp [h]

end Draft

namespace Registry

/-- The tables that registrations freeze into, or the fault found in them. -/
def ofRegistrations (features : FeatureSet) (registrations : List (Registration σ)) :
    Except AssemblyFault (Registry σ) :=
  (Draft.ofRegistrations features registrations).freeze.value

/-- Every registration under a feature that is on joins the table of one channel. -/
theorem sum_countP_joins (features : FeatureSet) (registrations : List (Registration σ)) :
    Channel.all.foldr (fun c n => registrations.countP (·.joins features c) + n) 0 =
      registrations.countP (·.feature.isEnabledIn features) := by
  induction registrations with
  | nil => rfl
  | cons registration rest ih =>
    simp only [Channel.all, foldr_cons, foldr_nil, countP_cons, Registration.joins] at ih ⊢
    cases hc : registration.channel <;>
      cases registration.feature.isEnabledIn features <;> simp <;> omega

/-- Tables that hold exactly the registrations made under features that are on. -/
structure TablesSpec (features : FeatureSet) (registrations : List (Registration σ))
    (registry : Registry σ) : Prop where
  features_eq : registry.features = features
  /-- What a dispatch shows and does depends on the table of its own channel only. -/
  reads : ∀ (signal : Signal) (other : Registry σ),
    other.table signal.channel = registry.table signal.channel →
      (other.fire signal).1 = (registry.fire signal).1 ∧
        (other.dispatch signal).deeds = (registry.dispatch signal).deeds
  perm : ∀ c, (registry.table c).map Candidate.registration ~
    registrations.filter (·.joins features c)
  ranked : ∀ c, (registry.table c).Pairwise fun a b => a.feature.rank < b.feature.rank
  total_eq : registry.total = registrations.countP (·.feature.isEnabledIn features)

theorem total_eq_of_perm {features : FeatureSet} {registrations : List (Registration σ)}
    {registry : Registry σ} (h : ∀ c, (registry.table c).map Candidate.registration ~
      registrations.filter (·.joins features c)) :
    registry.total = registrations.countP (·.feature.isEnabledIn features) := by
  have hsize : ∀ c, registry.size c = registrations.countP (·.joins features c) := by
    intro c
    rw [countP_eq_length_filter, ← (h c).length_eq, length_map, size]
  simp only [total, hsize, sum_countP_joins]

theorem tablesSpec_tables {features : FeatureSet} {registrations : List (Registration σ)}
    (h : ∀ c, (((Draft.ofRegistrations features registrations).pending c).map
      Candidate.feature).Nodup) :
    TablesSpec features registrations (Draft.ofRegistrations features registrations).tables := by
  have hperm : ∀ c, ((Draft.ofRegistrations features registrations).ranked c).map
      Candidate.registration ~ registrations.filter (·.joins features c) := by
    intro c
    rw [← Draft.map_pending_ofRegistrations]
    exact (Draft.ranked_perm _ c).map _
  refine ⟨Draft.features_ofRegistrations registrations, ?_, hperm, ?_, total_eq_of_perm hperm⟩
  · intro signal other hother
    simp only [fire, dispatch, hother, Acted.value_bind, Acted.deeds_bind, Acted.value_pure,
      Acted.deeds_pure, and_self]
  · exact fun c => Draft.pairwise_ranked_of_nodup (h c)

theorem tablesSpec_of_eq_ok {features : FeatureSet} {registrations : List (Registration σ)}
    {registry : Registry σ} (h : ofRegistrations features registrations = .ok registry) :
    TablesSpec features registrations registry := by
  obtain ⟨hn, rfl⟩ := Draft.freeze_eq_ok_iff.mp h
  exact tablesSpec_tables hn

/-- Registrations freeze exactly when no feature that is on is registered twice on a channel, and
then into tables that hold just those made under features that are on. -/
theorem ofRegistrations_ok_iff_and_tables (features : FeatureSet)
    (registrations : List (Registration σ)) :
    ((∃ registry, ofRegistrations features registrations = .ok registry) ↔
      ∀ c feature, feature.isEnabledIn features = true →
        Registration.tally registrations feature c ≤ 1) ∧
    ∀ registry, ofRegistrations features registrations = .ok registry →
      TablesSpec features registrations registry := by
  refine ⟨?_, fun registry h => tablesSpec_of_eq_ok h⟩
  rw [← Draft.nodup_pending_ofRegistrations_iff]
  constructor
  · rintro ⟨registry, h⟩
    exact (Draft.freeze_eq_ok_iff.mp h).1
  · exact fun h => ⟨_, Draft.freeze_eq_ok_iff.mpr ⟨h, rfl⟩⟩

end Registry

/-- Hooks registered out of order, two of them under one feature and on one channel. -/
def Script.outOfOrder : List (Registration (List Bool)) :=
  [⟨.txTimeout, .terminate, hook _ [false]⟩, ⟨.ifs, .terminate, hook _ []⟩,
    ⟨.csmaCa, .txFailed, hook _ [true]⟩, ⟨.csmaCa, .terminate, hook _ [true, false]⟩,
    ⟨.ifs, .terminate, hook _ [false, true]⟩]

namespace Registry

/-- A feature that is off may be registered twice. -/
theorem ofRegistrations_outOfOrder :
    ∃ registry, ofRegistrations { FeatureSet.none with csmaCa := true } Script.outOfOrder =
        .ok registry ∧
      TablesSpec { FeatureSet.none with csmaCa := true } Script.outOfOrder registry := by
  have hspec := ofRegistrations_ok_iff_and_tables { FeatureSet.none with csmaCa := true }
    Script.outOfOrder
  obtain ⟨registry, hok⟩ := hspec.1.mpr
    (by intro c feature; cases c <;> cases feature <;> decide)
  exact ⟨registry, hok, hspec.2 registry hok⟩

end Registry

end MacDispatch
