import MacDispatch.Proofs.Attempts
import MacDispatch.Proofs.Reference
import Mathlib.Data.List.Basic

/-! # Cells

A list in a cell can be read back. Main statement: as long as no element has a comma in it, only
one list is shown by a cell, so the cells of a replay and of a layout tell which features there
were, and in which order. -/

namespace MacDispatch

open List

namespace Cell

/-! ## Reading a cell -/

/-- The elements of a list, read from its cell. -/
def elements (cell : String) : List String :=
  if cell = "-" then []
  else
    match cell.toList.splitOn ',' with
    | [] => []
    | first :: rest => String.ofList first :: rest.map fun word => String.ofList word.tail

/-- The blank behind a comma might as well begin the next word. -/
theorem intercalate_comma_blank (word : List Char) (words : List (List Char)) :
    [',', ' '].intercalate (word :: words) = [','].intercalate (word :: words.map (' ' :: ·)) := by
  induction words generalizing word with
  | nil => rfl
  | cons next rest ih =>
    rw [map_cons, intercalate_cons_cons, intercalate_cons_cons, ih next]
    cases rest with
    | nil => simp
    | cons third rest => simp [intercalate_cons_cons]

variable {x : String} {xs ys : List String}

theorem toList_joined_cons (x : String) (xs : List String) :
    (joined (x :: xs)).toList =
      [','].intercalate (x.toList :: xs.map fun word => ' ' :: word.toList) := by
  have hjoined : joined (x :: xs) = ", ".intercalate (x :: xs) := rfl
  have hcomma : ", ".toList = [',', ' '] := rfl
  rw [hjoined, String.toList_intercalate, hcomma, map_cons, intercalate_comma_blank, map_map]
  rfl

theorem splitOn_joined_cons (h : ∀ word ∈ x :: xs, ',' ∉ word.toList) :
    (joined (x :: xs)).toList.splitOn ',' =
      x.toList :: xs.map fun word => ' ' :: word.toList := by
  obtain ⟨hx, hxs⟩ := forall_mem_cons.mp h
  rw [toList_joined_cons]
  apply splitOn_intercalate
  · intro word hmem
    rcases mem_cons.mp hmem with rfl | hmem
    · exact hx
    · obtain ⟨own, hown, rfl⟩ := mem_map.mp hmem
      simpa using hxs own hown
  · exact cons_ne_nil _ _

/-- Only the dash itself is shown as a dash. -/
theorem joined_cons_eq_dash (h : ∀ word ∈ x :: xs, ',' ∉ word.toList)
    (hdash : joined (x :: xs) = "-") : x :: xs = ["-"] := by
  have hsplit := splitOn_joined_cons h
  have hword : "-".toList.splitOn ',' = ["-".toList] := by decide
  rw [hdash, hword] at hsplit
  obtain ⟨hx, hxs⟩ := cons.inj hsplit
  rw [String.toList_injective hx, map_eq_nil_iff.mp hxs.symm]

theorem elements_joined (h : ∀ word ∈ xs, ',' ∉ word.toList) (hdash : xs ≠ ["-"]) :
    elements (joined xs) = xs := by
  cases xs with
  | nil => rfl
  | cons x xs =>
    have hne : joined (x :: xs) ≠ "-" := fun he => hdash (joined_cons_eq_dash h he)
    rw [elements, if_neg hne, splitOn_joined_cons h]
    simp [Function.comp_def]

theorem eq_of_joined_eq (hxs : ∀ word ∈ xs, ',' ∉ word.toList)
    (hys : ∀ word ∈ ys, ',' ∉ word.toList) (hx : xs ≠ ["-"]) (hy : ys ≠ ["-"])
    (h : joined xs = joined ys) : xs = ys := by
  calc
    xs = elements (joined xs) := (elements_joined hxs hx).symm
    _ = elements (joined ys) := by rw [h]
    _ = ys := elements_joined hys hy

/-! ## Features in a cell -/

theorem comma_notMem_names (features : List Feature) :
    ∀ word ∈ features.map Feature.name, ',' ∉ word.toList := by
  intro word hmem
  obtain ⟨feature, -, rfl⟩ := mem_map.mp hmem
  cases feature <;> decide

theorem names_ne_dash (features : List Feature) : features.map Feature.name ≠ ["-"] := by
  intro h
  obtain ⟨feature, -, hname⟩ := mem_map.mp (h ▸ mem_singleton_self "-")
  revert hname
  cases feature <;> decide

theorem joined_names_injective :
    Function.Injective fun features : List Feature => joined (features.map Feature.name) := by
  intro fs gs h
  have hnames : fs.map Feature.name = gs.map Feature.name :=
    eq_of_joined_eq (comma_notMem_names fs) (comma_notMem_names gs) (names_ne_dash fs)
      (names_ne_dash gs) h
  exact map_injective_iff.mpr Vocabulary.name_injective hnames

theorem joined_names_eq_dash_iff {features : List Feature} :
    joined (features.map Feature.name) = "-" ↔ features = [] :=
  joined_names_injective.eq_iff (b := [])

/-! ## Columns -/

def column (heading : String) (table : Table) : List (Option String) :=
  table.rows.map fun row => (table.headings.zip row).lookup heading

theorem column_invoked (rows : List ReplayRow) :
    column "Invoked" (ReplayRow.table rows) =
      (rows.map ReplayRow.invoked).map fun features =>
        some (joined (features.map Feature.name)) := by
  rw [column, ReplayRow.table, map_map, map_map]
  exact map_congr_left fun row _ => by simp [ReplayRow.invokedText, lookup_cons]

theorem column_candidates (layouts : List ChannelLayout) :
    column "Candidates" (ChannelLayout.table layouts) =
      (layouts.map ChannelLayout.candidates).map fun features =>
        some (joined (features.map Feature.name)) := by
  rw [column, ChannelLayout.table, map_map, map_map]
  exact map_congr_left fun layout _ => by simp [lookup_cons]

theorem map_invoked_eq_of_column_eq {rows rows' : List ReplayRow}
    (h : column "Invoked" (ReplayRow.table rows) = column "Invoked" (ReplayRow.table rows')) :
    rows.map ReplayRow.invoked = rows'.map ReplayRow.invoked := by
  rw [column_invoked, column_invoked] at h
  exact map_injective_iff.mpr ((Option.some_injective _).comp joined_names_injective) h

/-- Lists in cells, of any texts and of features. -/
structure CellSpec : Prop where
  determined : ∀ xs ys : List String, (∀ word ∈ xs, ',' ∉ word.toList) →
    (∀ word ∈ ys, ',' ∉ word.toList) → xs ≠ ["-"] → ys ≠ ["-"] → joined xs = joined ys → xs = ys
  features : Function.Injective fun features : List Feature => joined (features.map Feature.name)
  dash_iff : ∀ features : List Feature, joined (features.map Feature.name) = "-" ↔ features = []
  invoked : ∀ rows rows' : List ReplayRow,
    column "Invoked" (ReplayRow.table rows) = column "Invoked" (ReplayRow.table rows') →
      rows.map ReplayRow.invoked = rows'.map ReplayRow.invoked
  /-- The cells of a replay with probes tell whom each dispatch called. -/
  replayed : ∀ features features' veto veto' bench bench',
    (ProbeBench.assemble features veto).value = .ok bench →
    (ProbeBench.assemble features' veto').value = .ok bench' → ∀ plan plan',
      column "Invoked" (ReplayRow.table (Replay.run bench plan).value.rows) =
          column "Invoked" (ReplayRow.table (Replay.run bench' plan').value.rows) →
        (Replay.run bench plan).value.firings.map Firing.features =
          (Replay.run bench' plan').value.firings.map Firing.features
  invoked_eq_dash_iff : ∀ row : ReplayRow, row.invokedText = "-" ↔ row.invoked = []
  candidates : ∀ layouts layouts' : List ChannelLayout,
    column "Candidates" (ChannelLayout.table layouts) =
        column "Candidates" (ChannelLayout.table layouts') →
      layouts.map ChannelLayout.candidates = layouts'.map ChannelLayout.candidates

/-- A cell shows one list only. -/
theorem cells_tell_lists : CellSpec where
  determined _ _ hxs hys hx hy h := eq_of_joined_eq hxs hys hx hy h
  features := joined_names_injective
  dash_iff _ := joined_names_eq_dash_iff
  invoked _ _ h := map_invoked_eq_of_column_eq h
  replayed features features' veto veto' bench bench' hbench hbench' plan plan' h := by
    rw [ProbeBench.value_assemble] at hbench hbench'
    cases hbench
    cases hbench'
    rw [← Replay.map_invoked_rows (Probe.recording_engine features veto) rfl,
      ← Replay.map_invoked_rows (Probe.recording_engine features' veto') rfl]
    exact map_invoked_eq_of_column_eq h
  invoked_eq_dash_iff _ := joined_names_eq_dash_iff
  candidates layouts layouts' h := by
    rw [column_candidates, column_candidates] at h
    exact map_injective_iff.mpr ((Option.some_injective _).comp joined_names_injective) h

/-- The dash itself is the one word that is not told from nothing. -/
example : joined ["-"] = joined [] := rfl

end Cell

end MacDispatch
