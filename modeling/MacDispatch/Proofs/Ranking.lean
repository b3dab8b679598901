import MacDispatch.Dispatch.Draft
import Mathlib.Data.List.Perm.Basic

/-! # Rank order

A list of features in rank order repeats a feature only side by side, and is determined by the
features in it. -/

namespace MacDispatch

open List

namespace Feature

/-! ## The order of features -/

theorem le_iff {a b : Feature} : a.le b = true ↔ a.rank ≤ b.rank := by
  simp [le]

theorem le_trans (a b c : Feature) (hab : a.le b = true) (hbc : b.le c = true) :
    a.le c = true :=
  le_iff.mpr (Nat.le_trans (le_iff.mp hab) (le_iff.mp hbc))

theorem le_total (a b : Feature) : (a.le b || b.le a) = true := by
  simpa [le] using Nat.le_total a.rank b.rank

theorem eq_of_rank_le {a b : Feature} (hab : a.rank ≤ b.rank) (hba : b.rank ≤ a.rank) : a = b :=
  rank_injective (Nat.le_antisymm hab hba)

/-- Two arrangements of the same features in rank order are one. -/
theorem eq_of_perm_of_ranked {l l' : List Feature} (hp : l ~ l')
    (h : l.Pairwise (rank · ≤ rank ·)) (h' : l'.Pairwise (rank · ≤ rank ·)) : l = l' :=
  hp.eq_of_pairwise (fun _ _ _ _ => eq_of_rank_le) h h'

theorem sort_perm (l : List Feature) : sort l ~ l :=
  mergeSort_perm _ _

theorem pairwise_sort (l : List Feature) : (sort l).Pairwise (rank · ≤ rank ·) :=
  (pairwise_mergeSort le_trans le_total l).imp le_iff.mp

/-- In rank order, no feature occurs twice exactly when the ranks strictly increase. -/
theorem pairwise_lt_iff_nodup {l : List Feature} (h : l.Pairwise (rank · ≤ rank ·)) :
    l.Pairwise (rank · < rank ·) ↔ l.Nodup := by
  constructor
  · intro hlt
    refine hlt.imp fun hab he => ?_
    exact Nat.ne_of_lt hab (congrArg rank he)
  · intro hn
    refine (h.and hn).imp fun hab => ?_
    exact Nat.lt_of_le_of_ne hab.1 fun he => hab.2 (rank_injective he)

end Feature

namespace Candidate

variable {σ : Type} {c : Channel} {l l' : List (Candidate σ c)}

/-- Strictly ranked candidates have one order, hooks included. -/
theorem eq_of_perm_of_ranked (hp : l ~ l')
    (h : l.Pairwise fun a b => a.feature.rank < b.feature.rank)
    (h' : l'.Pairwise fun a b => a.feature.rank < b.feature.rank) : l = l' :=
  hp.eq_of_pairwise (fun _ _ _ _ hab hba => absurd hab (Nat.lt_asymm hba)) h h'

theorem nodup_of_ranked (h : l.Pairwise fun a b => a.feature.rank < b.feature.rank) :
    (l.map feature).Nodup := by
  rw [nodup_iff_pairwise_ne, pairwise_map]
  exact h.imp fun hlt he => Nat.ne_of_lt hlt (congrArg Feature.rank he)

end Candidate

namespace Draft

/-! ## Neighbours that are equal -/

/-- A feature above its neighbour is above everything that follows. -/
theorem notMem_of_ranked_of_ne {a b : Feature} {rest : List Feature}
    (h : (a :: b :: rest).Pairwise (Feature.rank · ≤ Feature.rank ·)) (hab : a ≠ b) :
    a ∉ b :: rest := by
  have hlt : a.rank < b.rank :=
    Nat.lt_of_le_of_ne (rel_of_pairwise_cons h (by simp)) fun he => hab (Feature.rank_injective he)
  intro ha
  rcases mem_cons.mp ha with he | hr
  · exact hab he
  · exact Nat.not_le_of_lt hlt (rel_of_pairwise_cons h.tail hr)

/-- Comparing neighbours finds every feature that occurs twice. -/
theorem firstRepeated_eq_none_iff {l : List Feature}
    (h : l.Pairwise (Feature.rank · ≤ Feature.rank ·)) :
    firstRepeated l = none ↔ l.Nodup := by
  induction l with
  | nil => simp [firstRepeated]
  | cons a l ih =>
    cases l with
    | nil => simp [firstRepeated]
    | cons b rest =>
      by_cases hab : a = b
      · simp [firstRepeated, hab]
      · rw [firstRepeated, if_neg hab, ih h.tail, nodup_cons (a := a)]
        exact ⟨fun hn => ⟨notMem_of_ranked_of_ne h hab, hn⟩, And.right⟩

end Draft

end MacDispatch
