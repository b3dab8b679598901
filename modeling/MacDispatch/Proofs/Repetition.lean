import MacDispatch.Proofs.Tables

/-! # Repetition

Main statement: registrations that do not freeze fail with the first of their faults. It names the
first channel on which a feature that is on is registered more than once, and the highest such
feature on it, however often and in whatever order the hooks came. -/

namespace MacDispatch

open List

variable {σ : Type}

namespace Draft

/-! ## The first repetition -/

/-- In rank order, the first equal neighbours are of the highest feature that occurs twice. -/
theorem two_le_count_of_firstRepeated {l : List Feature}
    (h : l.Pairwise (Feature.rank · ≤ Feature.rank ·)) {feature : Feature}
    (hfirst : firstRepeated l = some feature) :
    2 ≤ l.count feature ∧ ∀ other, 2 ≤ l.count other → feature.rank ≤ other.rank := by
  induction l with
  | nil => simp [firstRepeated] at hfirst
  | cons a l ih =>
    cases l with
    | nil => simp [firstRepeated] at hfirst
    | cons b rest =>
      by_cases hab : a = b
      · obtain rfl : a = feature := by simpa [firstRepeated, hab] using hfirst
        refine ⟨by simp [hab], fun other hother => ?_⟩
        have hmem : other ∈ a :: b :: rest := count_pos_iff.mp (by omega)
        rcases mem_cons.mp hmem with rfl | hlater
        · exact Nat.le_refl _
        · exact rel_of_pairwise_cons h hlater
      · rw [firstRepeated, if_neg hab] at hfirst
        obtain ⟨htwice, hhighest⟩ := ih h.tail hfirst
        refine ⟨Nat.le_trans htwice (count_le_count_cons ..), fun other hother => ?_⟩
        -- The head does not occur again, so whatever occurs twice does so behind it.
        have hne : a ≠ other := by
          rintro rfl
          have hagain : a ∈ b :: rest := count_pos_iff.mp (by rw [count_cons_self] at hother; omega)
          exact notMem_of_ranked_of_ne h hab hagain
        rw [count_cons_of_ne hne] at hother
        exact hhighest other hother

theorem firstRepeated_eq_some_iff {l : List Feature}
    (h : l.Pairwise (Feature.rank · ≤ Feature.rank ·)) {feature : Feature} :
    firstRepeated l = some feature ↔
      2 ≤ l.count feature ∧ ∀ other, 2 ≤ l.count other → feature.rank ≤ other.rank := by
  refine ⟨two_le_count_of_firstRepeated h, ?_⟩
  rintro ⟨htwice, hhighest⟩
  cases hfirst : firstRepeated l with
  | none =>
    have hn : l.Nodup := (firstRepeated_eq_none_iff h).mp hfirst
    exact absurd (nodup_iff_count.mp hn feature) (by omega)
  | some other =>
    obtain ⟨htwice', hhighest'⟩ := two_le_count_of_firstRepeated h hfirst
    rw [Feature.eq_of_rank_le (hhighest' feature htwice) (hhighest other htwice')]

theorem repeated?_eq_some_iff {draft : Draft σ} {c : Channel} {feature : Feature} :
    draft.repeated? c = some feature ↔
      2 ≤ ((draft.pending c).map Candidate.feature).count feature ∧
        ∀ other, 2 ≤ ((draft.pending c).map Candidate.feature).count other →
          feature.rank ≤ other.rank := by
  have hcount := ((draft.ranked_perm c).map Candidate.feature).count_eq
  rw [repeated?, firstRepeated_eq_some_iff (draft.pairwise_ranked c)]
  simp only [hcount]

/-- Channels are gone through in order. -/
theorem fault?_eq_some_iff {draft : Draft σ} {fault : AssemblyFault} :
    draft.fault? = some fault ↔
      ∃ feature c, fault = .repeatedHook feature c ∧ draft.repeated? c = some feature ∧
        ∃ front back, Channel.all = front ++ c :: back ∧
          ∀ d ∈ front, draft.repeated? d = none := by
  simp only [fault?, findSome?_eq_some_iff, Option.map_eq_some_iff, Option.map_eq_none_iff]
  constructor
  · rintro ⟨front, c, back, hall, ⟨feature, hrepeated, rfl⟩, hfront⟩
    exact ⟨feature, c, rfl, hrepeated, front, back, hall, hfront⟩
  · rintro ⟨feature, c, rfl, hrepeated, front, back, hall, hfront⟩
    exact ⟨front, c, back, hall, ⟨feature, hrepeated, rfl⟩, hfront⟩

end Draft

namespace Registration

/-! ## Faults of registrations -/

/-- The feature is on, and it is registered more than once on the channel. -/
def Repeats (features : FeatureSet) (registrations : List (Registration σ)) (feature : Feature)
    (c : Channel) : Prop :=
  feature.isEnabledIn features = true ∧ 2 ≤ tally registrations feature c

/-- The feature is the highest that repeats on the channel, which is the first on which one does. -/
structure FirstRepeats (features : FeatureSet) (registrations : List (Registration σ))
    (feature : Feature) (c : Channel) : Prop where
  repeats : Repeats features registrations feature c
  highest : ∀ other, Repeats features registrations other c → feature.rank ≤ other.rank
  first : ∃ front back, Channel.all = front ++ c :: back ∧
    ∀ d ∈ front, ∀ other, ¬Repeats features registrations other d

variable {features : FeatureSet} {registrations : List (Registration σ)}

theorem two_le_count_pending_iff {feature : Feature} {c : Channel} :
    2 ≤ (((Draft.ofRegistrations features registrations).pending c).map
      Candidate.feature).count feature ↔ Repeats features registrations feature c := by
  rw [Draft.count_pending_ofRegistrations, Repeats]
  split <;> simp [*]

theorem repeated?_ofRegistrations_eq_none_iff {c : Channel} :
    (Draft.ofRegistrations features registrations).repeated? c = none ↔
      ∀ feature, ¬Repeats features registrations feature c := by
  simp only [Draft.repeated?_eq_none_iff, nodup_iff_count, ← two_le_count_pending_iff,
    Nat.not_le, Nat.lt_succ_iff]

theorem fault?_ofRegistrations_eq_some_iff {fault : AssemblyFault} :
    (Draft.ofRegistrations features registrations).fault? = some fault ↔
      ∃ feature c, fault = .repeatedHook feature c ∧
        FirstRepeats features registrations feature c := by
  simp only [Draft.fault?_eq_some_iff, Draft.repeated?_eq_some_iff, two_le_count_pending_iff,
    repeated?_ofRegistrations_eq_none_iff]
  constructor
  · rintro ⟨feature, c, rfl, ⟨hrepeats, hhighest⟩, hfirst⟩
    exact ⟨feature, c, rfl, hrepeats, hhighest, hfirst⟩
  · rintro ⟨feature, c, rfl, hrepeats, hhighest, hfirst⟩
    exact ⟨feature, c, rfl, ⟨hrepeats, hhighest⟩, hfirst⟩

end Registration

namespace Registry

/-- Registrations fail to freeze exactly when a feature that is on repeats on a channel. The first
such channel is told of, with the highest such feature on it and with no cause beyond it. -/
theorem failure_is_first_repetition (features : FeatureSet)
    (registrations : List (Registration σ)) (failure : Failure) :
    (∃ fault, ofRegistrations features registrations = .error fault ∧ fault.failure = failure) ↔
      ∃ feature c, Registration.FirstRepeats features registrations feature c ∧
        failure = ⟨.validation, "feature '" ++ feature.name ++
          "' registered more than one hook on channel '" ++ c.name ++ "'", none⟩ := by
  have herror : ∀ fault, ofRegistrations features registrations = .error fault ↔
      (Draft.ofRegistrations features registrations).fault? = some fault := by
    intro fault
    rw [ofRegistrations, Draft.value_freeze]
    cases (Draft.ofRegistrations features registrations).fault? <;> simp
  simp only [herror, Registration.fault?_ofRegistrations_eq_some_iff]
  constructor
  · rintro ⟨_, ⟨feature, c, rfl, hfirst⟩, rfl⟩
    exact ⟨feature, c, hfirst, rfl⟩
  · rintro ⟨feature, c, hfirst, rfl⟩
    exact ⟨_, ⟨feature, c, rfl, hfirst⟩, rfl⟩

end Registry

end MacDispatch
