import MacDispatch.Proofs.Ranking

/-! # Freezing

A draft that took registrations holds, on each channel, those made under features that are on, in
the order in which they were made. It freezes exactly when no feature occurs twice on a channel,
and then into the same candidates in rank order. -/

namespace MacDispatch

open List

variable {σ : Type}

/-- The registration that puts a candidate on its channel. -/
def Candidate.registration {c : Channel} (candidate : Candidate σ c) : Registration σ :=
  ⟨candidate.feature, c, candidate.hook⟩

/-- Whether a registration is made on the channel under a feature that is on. -/
def Registration.joins (features : FeatureSet) (c : Channel) (registration : Registration σ) :
    Bool :=
  registration.feature.isEnabledIn features && registration.channel == c

theorem Candidate.registration_injective {c : Channel} :
    Function.Injective (Candidate.registration : Candidate σ c → Registration σ) := by
  rintro ⟨f, h⟩ ⟨g, k⟩ he
  cases he
  rfl

/-- A registration makes a candidate on its own channel only, under the same feature and with the
same hook. -/
theorem Registration.map_candidate? (registration : Registration σ) (c : Channel) :
    (registration.candidate? c).toList.map Candidate.registration =
      if registration.channel = c then [registration] else [] := by
  by_cases h : registration.channel = c
  · subst h
    simp [candidate?, Candidate.registration]
  · simp [candidate?, h]

namespace Draft

/-! ## Registering -/

@[simp] theorem features_register (draft : Draft σ) (registration : Registration σ) :
    (draft.register registration).value.features = draft.features := by
  unfold register
  split <;> rfl

@[simp] theorem features_registerAll (draft : Draft σ) (registrations : List (Registration σ)) :
    (draft.registerAll registrations).value.features = draft.features := by
  induction registrations generalizing draft with
  | nil => rfl
  | cons registration rest ih =>
    rw [registerAll, Traced.value_bind, ih, features_register]

theorem registerAll_append (draft : Draft σ) (front rest : List (Registration σ)) :
    (draft.registerAll (front ++ rest)).value =
      ((draft.registerAll front).value.registerAll rest).value := by
  induction front generalizing draft with
  | nil => rfl
  | cons registration front ih =>
    simp only [List.cons_append, registerAll, Traced.value_bind, ih]

/-- A registration joins the end of its channel's table, or changes nothing. -/
theorem map_pending_register (draft : Draft σ) (registration : Registration σ) (c : Channel) :
    ((draft.register registration).value.pending c).map Candidate.registration =
      (draft.pending c).map Candidate.registration ++
        [registration].filter (·.joins draft.features c) := by
  unfold register
  by_cases hon : registration.feature.isEnabledIn draft.features = true
  · by_cases hc : registration.channel = c <;>
      simp [hon, hc, push, Registration.map_candidate?, Registration.joins]
  · simp [hon, Registration.joins]

/-- A table holds what it held, and then the registrations that join it in order. -/
theorem map_pending_registerAll (draft : Draft σ) (registrations : List (Registration σ))
    (c : Channel) :
    ((draft.registerAll registrations).value.pending c).map Candidate.registration =
      (draft.pending c).map Candidate.registration ++
        registrations.filter (·.joins draft.features c) := by
  induction registrations generalizing draft with
  | nil => simp [registerAll]
  | cons registration rest ih =>
    rw [registerAll, Traced.value_bind, ih, map_pending_register, features_register,
      List.append_assoc, ← List.filter_append, List.singleton_append]

/-! ## Ranking -/

theorem ranked_perm (draft : Draft σ) (c : Channel) : draft.ranked c ~ draft.pending c :=
  mergeSort_perm _ _

theorem pairwise_ranked (draft : Draft σ) (c : Channel) :
    ((draft.ranked c).map Candidate.feature).Pairwise (Feature.rank · ≤ Feature.rank ·) := by
  have hle : (draft.ranked c).Pairwise fun a b => a.feature.le b.feature = true :=
    pairwise_mergeSort (fun a b d => Feature.le_trans a.feature b.feature d.feature)
      (fun a b => Feature.le_total a.feature b.feature) _
  exact pairwise_map.mpr (hle.imp Feature.le_iff.mp)

theorem repeated?_eq_none_iff (draft : Draft σ) (c : Channel) :
    draft.repeated? c = none ↔ ((draft.pending c).map Candidate.feature).Nodup := by
  rw [repeated?, firstRepeated_eq_none_iff (draft.pairwise_ranked c)]
  exact ((draft.ranked_perm c).map Candidate.feature).nodup_iff

/-! ## Freezing -/

theorem fault?_eq_none_iff (draft : Draft σ) :
    draft.fault? = none ↔ ∀ c, ((draft.pending c).map Candidate.feature).Nodup := by
  simp only [fault?, findSome?_eq_none_iff, Option.map_eq_none_iff, repeated?_eq_none_iff]
  exact ⟨fun h c => h c (Vocabulary.mem_all c), fun h c _ => h c⟩

/-- Freezing gives the ranked tables, or tells of the first fault. -/
theorem value_freeze (draft : Draft σ) :
    draft.freeze.value =
      match draft.fault? with
      | some fault => .error fault
      | none => .ok draft.tables := by
  unfold freeze
  cases draft.fault? <;> rfl

theorem freeze_eq_ok_iff {draft : Draft σ} {registry : Registry σ} :
    draft.freeze.value = .ok registry ↔
      (∀ c, ((draft.pending c).map Candidate.feature).Nodup) ∧ draft.tables = registry := by
  rw [value_freeze, ← fault?_eq_none_iff]
  cases draft.fault? <;> simp

/-- The tables of a draft that freezes are strictly ranked. -/
theorem pairwise_ranked_of_nodup {draft : Draft σ} {c : Channel}
    (h : ((draft.pending c).map Candidate.feature).Nodup) :
    (draft.ranked c).Pairwise fun a b => a.feature.rank < b.feature.rank := by
  have hn : ((draft.ranked c).map Candidate.feature).Nodup :=
    ((draft.ranked_perm c).map Candidate.feature).nodup_iff.mpr h
  have hlt := (Feature.pairwise_lt_iff_nodup (draft.pairwise_ranked c)).mpr hn
  rwa [pairwise_map] at hlt

end Draft

end MacDispatch
