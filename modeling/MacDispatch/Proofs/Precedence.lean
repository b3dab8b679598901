import MacDispatch.Proofs.Layers
import MacDispatch.Proofs.Standard
import Mathlib.Data.List.Forall2

/-! # Precedence

What is read from the entries that are left when sources have been laid over one another. Main
statement: each setting, whatever becomes of the others, has the value that the last source to give
it one gives it, and its usual value if none does. It is the same with every lawful reader. -/

namespace MacDispatch

open List
open Setting (Assignment)

/-! ## Reading settings one by one -/

/-- A setting is what the members of its section hold for it. -/
theorem SectionView.get_of_holds {α : Type} {view : SectionView} {members : Entries}
    {read : String → Entry → Except SettingFault α} {scalar : α → Scalar} {name : String}
    {held : Option α} (hview : ∀ position name, view.entry? position name = members.get? name)
    (hread : ∀ {entry value}, entry.scalar? = some (scalar value) → ∀ key,
      read key entry = .ok value)
    (h : (members.get? name).map Entry.scalar? = held.map fun value => some (scalar value))
    (position : Nat) (fallback : α) :
    view.get read position name fallback = .ok (held.getD fallback) := by
  rw [get, hview]
  cases held with
  | none => rw [Option.map_eq_none_iff.mp h, Option.getD_none]
  | some value =>
    obtain ⟨entry, hentry, hscalar⟩ := Option.map_eq_some_iff.mp h
    rw [hentry]
    exact hread hscalar _

namespace Settings

/-- Settings with the given values, and as usual where none is given. -/
def assigned (usual : Settings) (held : Assignment) : Settings where
  features :=
    { csmaCa := (held .csmaCa).getD usual.features.csmaCa
      ackTimeout := (held .ackTimeout).getD usual.features.ackTimeout
      delayedTrx := (held .delayedTrx).getD usual.features.delayedTrx
      ifs := (held .ifs).getD usual.features.ifs }
  logging :=
    { level := (held .level).getD usual.logging.level
      format := (held .format).getD usual.logging.format }

theorem value_assigned (usual : Settings) (held : Assignment) (s : Setting) :
    (assigned usual held).value s = (held s).getD (usual.value s) := by
  cases s <;> rfl

variable {reader : SettingsReader} {members entries : Entries} {entry : Entry}
variable {held : Assignment}

theorem switchesOf_of_members (hr : reader.Lawful) (usual : Settings)
    (hentry : entry.HasMembers members)
    (h : ∀ s : Setting, s.home = "features" → (members.get? s.key).map Entry.scalar? =
      (held s).map fun value => some (s.scalar value)) :
    switchesOf reader usual.features entry = .ok (assigned usual held).features := by
  obtain ⟨view, hview, hnames⟩ := hr.view_table hentry "features" "FeatureConfig"
  have hcsmaCa := SectionView.get_of_holds hnames hr.bool_of_bool (h .csmaCa rfl) 0
  have hackTimeout := SectionView.get_of_holds hnames hr.bool_of_bool (h .ackTimeout rfl) 1
  have hdelayedTrx := SectionView.get_of_holds hnames hr.bool_of_bool (h .delayedTrx rfl) 2
  have hifs := SectionView.get_of_holds hnames hr.bool_of_bool (h .ifs rfl) 3
  simp only [Setting.key] at hcsmaCa hackTimeout hdelayedTrx hifs
  rw [switchesOf, hview]
  simp only [bind, Except.bind, hcsmaCa, hackTimeout, hdelayedTrx, hifs]
  rfl

theorem loggingOf_of_members (hr : reader.Lawful) (usual : Settings)
    (hentry : entry.HasMembers members)
    (h : ∀ s : Setting, s.home = "logging" → (members.get? s.key).map Entry.scalar? =
      (held s).map fun value => some (s.scalar value)) :
    loggingOf reader usual.logging entry = .ok (assigned usual held).logging := by
  obtain ⟨view, hview, hnames⟩ := hr.view_table hentry "logging" "LoggingConfig"
  have hlevel := SectionView.get_of_holds hnames hr.text_of_text (h .level rfl) 0
  have hformat := SectionView.get_of_holds hnames hr.text_of_text (h .format rfl) 1
  simp only [Setting.key] at hlevel hformat
  rw [loggingOf, hview]
  simp only [bind, Except.bind, hlevel, hformat]
  rfl

/-- Of a setting, its section holds what is held. -/
theorem map_inside_of_holds (h : entries.Holds held) {home : String} {s : Setting}
    (hs : s.home = home) : ((entries.inside home).get? s.key).map Entry.scalar? =
      (held s).map fun value => some (s.scalar value) := by
  subst hs
  rw [← Entries.reach?_pair]
  exact h.heard_eq s

/-- Nothing is held for the settings of a section about which nothing is said. -/
theorem eq_none_of_get?_eq_none (h : entries.Holds held) {home : String}
    (hnone : entries.get? home = none) {s : Setting} (hs : s.home = home) : held s = none := by
  have hinside := map_inside_of_holds h hs
  rw [Entries.inside, hnone] at hinside
  exact Option.map_eq_none_iff.mp hinside.symm

/-- A section is read from what is held for its settings. -/
theorem sectionOr_of_holds {α : Type} (h : entries.Holds held) {home : String} {s : Setting}
    (hs : s.home = home) {read : Entry → Except SettingFault α} {fallback result : α}
    (hread : ∀ {entry members}, entry.HasMembers members →
      (∀ s : Setting, s.home = home → (members.get? s.key).map Entry.scalar? =
        (held s).map fun value => some (s.scalar value)) → read entry = .ok result)
    (hnone : (∀ s : Setting, s.home = home → held s = none) → fallback = result) :
    sectionOr entries home read fallback = .ok result := by
  rw [sectionOr]
  cases hget : entries.get? home with
  | none => rw [hnone fun t ht => eq_none_of_get?_eq_none h hget ht]
  | some entry =>
    obtain ⟨members, hentry⟩ := h.sectioned s entry
      ((entries.reach?_singleton _).trans (hs.symm ▸ hget))
    refine hread hentry fun t ht => ?_
    obtain ⟨origin, rfl⟩ := hentry
    rw [← map_inside_of_holds h ht, Entries.inside, hget]
    rfl

theorem features_assigned_of_none (usual : Settings)
    (h : ∀ s : Setting, s.home = "features" → held s = none) :
    usual.features = (assigned usual held).features := by
  rw [assigned, h .csmaCa rfl, h .ackTimeout rfl, h .delayedTrx rfl, h .ifs rfl]
  rfl

theorem logging_assigned_of_none (usual : Settings)
    (h : ∀ s : Setting, s.home = "logging" → held s = none) :
    usual.logging = (assigned usual held).logging := by
  rw [assigned, h .level rfl, h .format rfl]
  rfl

/-- Where entries hold values for some settings, just these are not as usual. -/
theorem ofEntries_of_holds (hr : reader.Lawful) (compiled : FeatureSet)
    (h : entries.Holds held) :
    ofEntries reader compiled entries = .ok (assigned (default compiled) held) := by
  have hfeatures : sectionOr entries "features" (switchesOf reader (default compiled).features)
      (default compiled).features = .ok (assigned (default compiled) held).features :=
    sectionOr_of_holds h (s := .csmaCa) rfl (switchesOf_of_members hr _)
      (features_assigned_of_none _)
  have hlogging : sectionOr entries "logging" (loggingOf reader (default compiled).logging)
      (default compiled).logging = .ok (assigned (default compiled) held).logging :=
    sectionOr_of_holds h (s := .level) rfl (loggingOf_of_members hr _)
      (logging_assigned_of_none _)
  simp only [ofEntries, hfeatures, hlogging]
  rfl

/-! ## Reading what sources have left -/

/-- The values held, with those given in their place wherever there are any. -/
def overlaid (held given : Assignment) : Assignment := fun s => (given s).or (held s)

/-- Laid over any entries, a source leaves its values, and what was held where it has none. -/
def Lays (reader : SettingsReader) (source : Entries) (given : Assignment) : Prop :=
  ∀ (current : Entries) (held : Assignment), current.Holds held →
    (reader.layer source current).Holds (overlaid held given)

theorem lays_of_gives (hr : reader.Lawful) {source : Entries} {given : Assignment}
    (h : source.Gives given) : Lays reader source given :=
  fun current _ hcurrent =>
    ⟨h.sectioned_layer hr hcurrent.sectioned, fun s => by
      rw [h.heard_layer hr current, hcurrent.heard_eq, overlaid, Option.map_or]⟩

theorem lays_fromVariables (hr : reader.Lawful) {surroundings : Surroundings} {given : Assignment}
    (h : Environment.Gives surroundings.environment given) :
    Lays reader (fromVariables reader surroundings) given :=
  fun current _ hcurrent =>
    ⟨h.sectioned_layer hr hcurrent.sectioned, fun s => by
      rw [fromVariables, h.heard_layer hr current, hcurrent.heard_eq, overlaid, Option.map_or]⟩

theorem holds_foldl_layer {sources : List Entries} {givens : List Assignment}
    (h : Forall₂ (Lays reader) sources givens) {current : Entries}
    (hcurrent : current.Holds held) :
    (sources.foldl (fun entries source => reader.layer source entries) current).Holds
      (givens.foldl overlaid held) := by
  induction h generalizing current held with
  | nil => exact hcurrent
  | cons hlays _ ih => exact ih (hlays current held hcurrent)

/-- Settings that any number of sources describe are those that the sources give one after
another. -/
theorem exists_ofSources_of_lays (hr : reader.Lawful) (compiled : FeatureSet)
    {sources : List Entries} {givens : List Assignment}
    (h : Forall₂ (Lays reader) sources givens) :
    ∃ settings, ofSources reader compiled sources = .ok settings ∧ ∀ s, settings.value s =
      (givens.foldl overlaid (fun _ => none) s).getD ((default compiled).value s) := by
  have hholds := holds_foldl_layer h Entries.holds_nil
  rw [ofSources, ofEntries_of_holds hr compiled hholds]
  exact ⟨_, rfl, value_assigned _ _⟩

variable {compiled : FeatureSet} {surroundings : Surroundings}

theorem load_of_files {name : String} {common overlay : Entries}
    (hcommon : reader.file surroundings.tree "config/default" false = .ok common)
    (hoverlay : reader.file surroundings.tree ("config/" ++ name) false = .ok overlay) :
    load reader compiled surroundings name =
      ofSources reader compiled [common, overlay, fromVariables reader surroundings] := by
  simp only [load, fileNames, mapM_cons, mapM_nil, hcommon, hoverlay]
  rfl

theorem fromFile_of_file {path : String} {entries : Entries}
    (h : reader.file surroundings.tree path true = .ok entries) :
    fromFile reader compiled surroundings path =
      ofSources reader compiled [entries, fromVariables reader surroundings] := by
  rw [fromFile, h]
  rfl

theorem fromFile_of_fault {path : String} {fault : FileFault}
    (h : reader.file surroundings.tree path true = .error fault) :
    fromFile reader compiled surroundings path = .error (.read path fault) := by
  rw [fromFile, h]
  rfl

/-- Where the variables give these values to settings: what is loaded from files and variables. -/
structure LoadSpec (reader : SettingsReader) (compiled : FeatureSet) (surroundings : Surroundings)
    (given : Assignment) : Prop where
  /-- A file that is not there gives nothing. -/
  gives_of_missing : ∀ name,
    (∀ place ∈ SettingsFile.places name, surroundings.tree.read? place = none) →
      reader.FileGives surroundings.tree name fun _ => none
  load_ok : ∀ name (common overlay : Assignment),
    reader.FileGives surroundings.tree "config/default" common →
    reader.FileGives surroundings.tree ("config/" ++ name) overlay →
    ∃ settings, load reader compiled surroundings name = .ok settings ∧ ∀ s, settings.value s =
      ((given s).or ((overlay s).or (common s))).getD ((default compiled).value s)
  fromFile_ok : ∀ path entries (file : Assignment),
    reader.file surroundings.tree path true = .ok entries → entries.Gives file →
    ∃ settings, fromFile reader compiled surroundings path = .ok settings ∧
      ∀ s, settings.value s = ((given s).or (file s)).getD ((default compiled).value s)
  fromFile_error : ∀ path fault, reader.file surroundings.tree path true = .error fault →
    ∃ reason, fromFile reader compiled surroundings path = .error reason ∧ reason.failure =
      .configuration ("Failed to read config '" ++ path ++ "': " ++ fault.message)
  fromFile_missing : ∀ path,
    (∀ place ∈ SettingsFile.places path, surroundings.tree.read? place = none) →
    ∃ reason, fromFile reader compiled surroundings path = .error reason ∧ reason.failure =
      .configuration ("Failed to read config '" ++ path ++ "': " ++
        ("configuration file \"" ++ path ++ "\" not found"))

/-- Each setting, whatever becomes of the others, has the value that the last source to give it one
gives it, and is as usual if none does. -/
theorem last_source_decides {reader : SettingsReader} (hr : reader.Lawful)
    (compiled : FeatureSet) (surroundings : Surroundings) {given : Assignment}
    (h : Environment.Gives surroundings.environment given) :
    LoadSpec reader compiled surroundings given where
  gives_of_missing _ hmissing := ⟨[], (hr.file_of_missing hmissing).1, Entries.gives_nil⟩
  load_ok := by
    rintro name common overlay ⟨commons, hcommons, hcommon⟩ ⟨overlays, hoverlays, hoverlay⟩
    have hlays : Forall₂ (Lays reader) [commons, overlays, fromVariables reader surroundings]
        [common, overlay, given] :=
      .cons (lays_of_gives hr hcommon)
        (.cons (lays_of_gives hr hoverlay) (.cons (lays_fromVariables hr h) .nil))
    obtain ⟨settings, hsettings, hvalue⟩ := exists_ofSources_of_lays hr compiled hlays
    refine ⟨settings, (load_of_files hcommons hoverlays).trans hsettings, fun s => ?_⟩
    rw [hvalue]
    simp only [foldl_cons, foldl_nil, overlaid, Option.or_none]
  fromFile_ok := by
    intro path entries file hentries hfile
    have hlays : Forall₂ (Lays reader) [entries, fromVariables reader surroundings] [file, given] :=
      .cons (lays_of_gives hr hfile) (.cons (lays_fromVariables hr h) .nil)
    obtain ⟨settings, hsettings, hvalue⟩ := exists_ofSources_of_lays hr compiled hlays
    refine ⟨settings, (fromFile_of_file hentries).trans hsettings, fun s => ?_⟩
    rw [hvalue]
    simp only [foldl_cons, foldl_nil, overlaid, Option.or_none]
  fromFile_error := by
    intro path fault hfault
    exact ⟨_, fromFile_of_fault hfault, rfl⟩
  fromFile_missing := by
    intro path hmissing
    exact ⟨_, fromFile_of_fault (hr.file_of_missing hmissing).2, rfl⟩

/-- Whether a document consists of one switch. -/
def isSwitch (home key : String) (b : Bool) : Option (List (String × Toml)) → Bool
  | some [(home', .table [(key', .bool b')])] => home' == home && key' == key && b' == b
  | _ => false

theorem eq_of_isSwitch {home key : String} {b : Bool} {document : Option (List (String × Toml))}
    (h : isSwitch home key b document = true) :
    document = some [(home, .table [(key, .bool b)])] := by
  unfold isSwitch at h
  split at h
  · simp only [Bool.and_eq_true, beq_iff_eq] at h
    obtain ⟨⟨rfl, rfl⟩, rfl⟩ := h
    rfl
  · cases h

/-- A document that consists of one switch gives a value to that setting. -/
theorem fileGives_switch {tree : FileTree} {name path text : String} {b : Bool} {s : Setting}
    {value : s.Value} (hfind : SettingsFile.find tree name = .ok ⟨path, .toml, text⟩)
    (hmark : text.toList.head? ≠ some '\uFEFF')
    (htext : isSwitch s.home s.key b (Toml.ofText? text) = true)
    (hvalue : Scalar.bool b = s.scalar value) :
    SettingsReader.basic.FileGives tree name (s.only value) := by
  refine ⟨_, ?_, Entries.gives_only (some path) (some path) s value⟩
  have hfile : SettingsReader.basic.file tree name false =
      FormatReader.basic.file tree name false := rfl
  rw [hfile, FormatReader.file, hfind]
  refine (FormatReader.entries_basic_of_toml hmark (eq_of_isSwitch htext)).trans ?_
  simp only [Entry.membersOfToml, Entry.ofToml, hvalue]

/-- A common file, a file for use in the field, and a variable. -/
def fielded : Surroundings where
  tree := .ofTexts [] [("config/default.toml", "[features]\ncsma_ca = false\n"),
    ("config/field.toml", "[features]\nifs = false\n")]
  environment := [("RADIO_MAC__FEATURES__CSMA_CA", "True")]

theorem fileGives_default_fielded :
    SettingsReader.basic.FileGives fielded.tree "config/default" (Setting.only .csmaCa false) := by
  have hfind : SettingsFile.find fielded.tree "config/default" =
      .ok ⟨"config/default.toml", .toml, "[features]\ncsma_ca = false\n"⟩ := rfl
  exact fileGives_switch hfind (by decide) (by decide +kernel) rfl

theorem fileGives_field_fielded :
    SettingsReader.basic.FileGives fielded.tree "config/field" (Setting.only .ifs false) := by
  have hfind : SettingsFile.find fielded.tree "config/field" =
      .ok ⟨"config/field.toml", .toml, "[features]\nifs = false\n"⟩ := rfl
  exact fileGives_switch hfind (by decide) (by decide +kernel) rfl

theorem gives_environment_fielded :
    Environment.Gives fielded.environment (Setting.only .csmaCa true) := by
  refine Environment.gives_only ?_ ?_
  · unfold Setting.Names
    decide +kernel
  · unfold Setting.Spells
    decide +kernel

/-- The variable counts for more than the common file, each file keeps what it alone says, and the
laboratory has no file. -/
theorem last_source_decides_fielded :
    SettingsReader.basic.Lawful ∧
      Environment.Gives fielded.environment (Setting.only .csmaCa true) ∧
      LoadSpec .basic .all fielded (Setting.only .csmaCa true) ∧
      (∃ settings, load .basic .all fielded "field" = .ok settings ∧
        settings.value .csmaCa = true ∧ settings.value .ifs = false ∧
        settings.value .ackTimeout = true ∧ settings.value .level = "info") ∧
      ∃ settings, load .basic .all fielded "lab" = .ok settings ∧
        settings.value .ifs = true := by
  have hreader := SettingsReader.standard_lawful FormatReader.basic
  have hspec : LoadSpec .basic .all fielded (Setting.only .csmaCa true) :=
    last_source_decides hreader .all fielded gives_environment_fielded
  obtain ⟨settings, hload, hvalue⟩ :=
    hspec.load_ok "field" _ _ fileGives_default_fielded fileGives_field_fielded
  obtain ⟨settings', hload', hvalue'⟩ := hspec.load_ok "lab" _ _ fileGives_default_fielded
    (hspec.gives_of_missing _ (by decide))
  exact ⟨hreader, gives_environment_fielded, hspec,
    ⟨settings, hload, hvalue .csmaCa, hvalue .ifs, hvalue .ackTimeout, hvalue .level⟩,
    settings', hload', hvalue' .ifs⟩

end Settings

end MacDispatch
