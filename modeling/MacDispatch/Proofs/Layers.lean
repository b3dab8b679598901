import MacDispatch.Proofs.Readers
import MacDispatch.Settings.Load
import Mathlib.Logic.Function.Basic

/-! # Layers

Settings are loaded from sources that are laid over one another. Main statements: a file that gives
values to some settings, laid over what was said before, leaves of each setting what it gives, or
what was there if it gives nothing; and so does an environment. -/

namespace MacDispatch

open List

/-! ## Settings one by one -/

inductive Setting
  | csmaCa
  | ackTimeout
  | delayedTrx
  | ifs
  | level
  | format
deriving DecidableEq

namespace Setting

def home : Setting → String
  | csmaCa | ackTimeout | delayedTrx | ifs => "features"
  | level | format => "logging"

def key : Setting → String
  | csmaCa => "csma_ca"
  | ackTimeout => "ack_timeout"
  | delayedTrx => "delayed_trx"
  | ifs => "ifs"
  | level => "level"
  | format => "format"

def path (s : Setting) : List String := [s.home, s.key]

def Value : Setting → Type
  | csmaCa | ackTimeout | delayedTrx | ifs => Bool
  | level | format => String

/-- The scalar that a file has to hold for a setting. -/
def scalar : (s : Setting) → s.Value → Scalar
  | csmaCa, b | ackTimeout, b | delayedTrx, b | ifs, b => .bool b
  | level, t | format, t => .text t

/-- The name of a variable that sets a setting, in any case. -/
def Names (s : Setting) (name : String) : Prop :=
  Text.lowercase name = "radio_mac__" ++ s.home ++ "__" ++ s.key

/-- The text of a variable gives a truth value, or a text that would not pass for a truth value or
a number. -/
def Spells : (s : Setting) → String → s.Value → Prop
  | csmaCa, text, b | ackTimeout, text, b | delayedTrx, text, b | ifs, text, b =>
    Text.lowercase text = bif b then "true" else "false"
  | level, text, t | format, text, t =>
    text = t ∧ Text.lowercase text ≠ "true" ∧ Text.lowercase text ≠ "false" ∧
      Environment.integer? text = none ∧ Environment.real? text = none

abbrev Assignment := (s : Setting) → Option s.Value

def only (s : Setting) (value : s.Value) : Assignment :=
  Function.update (fun _ => none) s (some value)

theorem only_self (s : Setting) (value : s.Value) : only s value s = some value :=
  Function.update_self ..

theorem only_of_ne {s t : Setting} (h : t ≠ s) (value : s.Value) : only s value t = none :=
  Function.update_of_ne h ..

/-- The names of sections are no paths. -/
theorem home_plain (s : Setting) : '.' ∉ s.home.toList ∧ '[' ∉ s.home.toList := by
  cases s <;> decide

theorem eq_of_home_of_key {s t : Setting} (hhome : s.home = t.home) (hkey : s.key = t.key) :
    s = t := by
  cases s <;> cases t <;> first | rfl | exact absurd hkey (by decide)

theorem path_injective : Function.Injective path := by
  intro s t h
  obtain ⟨hhome, hrest⟩ := cons.inj h
  exact eq_of_home_of_key hhome (cons.inj hrest).1

theorem apart_of_ne {s t : Setting} (h : s ≠ t) : Apart s.path t.path :=
  ⟨fun hp => h (path_injective (hp.eq_of_length rfl)),
    fun hp => h (path_injective (hp.eq_of_length rfl)).symm⟩

theorem denotes_path (s : Setting) : Denotes (s.home ++ "." ++ s.key) s.path := by
  have hdotted : Denotes (".".intercalate s.path) s.path :=
    .dotted (cons_ne_nil _ _) (by cases s <;> decide)
  have htext : ".".intercalate s.path = s.home ++ "." ++ s.key := by cases s <;> decide
  rwa [htext] at hdotted

end Setting

open Setting (Assignment)

def Settings.value (settings : Settings) : (s : Setting) → s.Value
  | .csmaCa => settings.features.csmaCa
  | .ackTimeout => settings.features.ackTimeout
  | .delayedTrx => settings.features.delayedTrx
  | .ifs => settings.features.ifs
  | .level => settings.logging.level
  | .format => settings.logging.format

/-! ## What sources give -/

/-- The entries of a file give values to just these settings. Beside them there may be other keys
in the sections, and other names beside the sections as long as they are no paths. -/
structure Entries.Gives (entries : Entries) (given : Assignment) : Prop where
  plain : ∀ member ∈ entries, '.' ∉ member.1.toList ∧ '[' ∉ member.1.toList
  sections : ∀ s : Setting, ∀ entry, (s.home, entry) ∈ entries →
    ∃ members, entry.HasMembers members ∧ ∀ inner, (s.key, inner) ∈ members →
      ∃ value, given s = some value ∧ inner.scalar? = some (s.scalar value)
  given : ∀ s value, given s = some value →
    ∃ entry members inner, (s.home, entry) ∈ entries ∧ entry.HasMembers members ∧
      (s.key, inner) ∈ members

/-- What the file says, if there is one, gives values to just these settings. -/
def SettingsReader.FileGives (reader : SettingsReader) (tree : FileTree) (name : String)
    (given : Assignment) : Prop :=
  ∃ entries, reader.file tree name false = .ok entries ∧ entries.Gives given

namespace Environment

/-- The key that a variable stands for among the settings. -/
def settingKey? (name : String) : Option String :=
  key? Settings.variableFront Settings.variableSeparator name

/-- The variable sets nothing, or something that is neither a section nor a setting nor within a
setting. -/
def Elsewhere (name : String) : Prop :=
  ∀ key, settingKey? name = some key →
    ∃ path, Denotes key path ∧ ∀ s : Setting, Apart path s.path

/-- The variables give values to just these settings. -/
structure Gives (environment : List (String × String)) (given : Assignment) : Prop where
  spoken : ∀ name text, (name, text) ∈ environment →
    (∃ s : Setting, s.Names name ∧ ∃ value, given s = some value ∧ s.Spells text value) ∨
      Elsewhere name
  given : ∀ s value, given s = some value →
    ∃ name text, (name, text) ∈ environment ∧ s.Names name

end Environment

namespace Entries

/-! ## What entries hold -/

def inside (entries : Entries) (home : String) : Entries :=
  ((entries.get? home).getD .nothing).opened.2

/-- What entries hold for a setting: whether there is an entry for it, and its value if it has
one. -/
def heard (entries : Entries) (s : Setting) : Option (Option Scalar) :=
  (entries.reach? s.path).map Entry.scalar?

def Sectioned (entries : Entries) : Prop :=
  ∀ s : Setting, ∀ entry, entries.reach? [s.home] = some entry →
    ∃ members, entry.HasMembers members

/-- Sections are tables, and of settings they hold just these values. -/
structure Holds (entries : Entries) (held : Assignment) : Prop where
  sectioned : entries.Sectioned
  heard_eq : ∀ s, entries.heard s = (held s).map fun value => some (s.scalar value)

theorem reach?_singleton (entries : Entries) (name : String) :
    entries.reach? [name] = entries.get? name :=
  Option.bind_fun_some _

theorem reach?_pair (entries : Entries) (name key : String) :
    entries.reach? [name, key] = (entries.inside name).get? key := by
  rw [inside, reach?, Entry.within?, Entry.opened]
  cases entries.get? name with
  | none => rfl
  | some entry => exact Option.bind_fun_some _

theorem reach?_nil {path : List String} (h : path ≠ []) : reach? [] path = none := by
  obtain ⟨name, rest, rfl⟩ := exists_cons_of_ne_nil h
  rfl

theorem holds_nil : Holds [] fun _ => none where
  sectioned _ _ h := by cases h
  heard_eq _ := rfl

/-- Steps that mention a setting settle what is heard of it. -/
theorem heard_foldl {α : Type} {step : Entries → α → Entries} {steps : List α}
    (mentions : α → Prop) {given : Assignment} {s : Setting}
    (hset : ∀ a ∈ steps, mentions a → ∃ value, given s = some value ∧
      ∀ current : Entries, (step current a).heard s = some (some (s.scalar value)))
    (hkeep : ∀ a ∈ steps, ¬mentions a → ∀ current : Entries,
      (step current a).heard s = current.heard s)
    (hgiven : ∀ value, given s = some value → ∃ a ∈ steps, mentions a) (current : Entries) :
    (steps.foldl step current).heard s =
      ((given s).map fun value => some (s.scalar value)).or (current.heard s) := by
  cases hs : given s with
  | none =>
    refine foldl_view_of_keeps (fun entries : Entries => entries.heard s)
      (fun a hmem => hkeep a hmem fun hmentions => ?_) current
    obtain ⟨value, hvalue, -⟩ := hset a hmem hmentions
    rw [hs] at hvalue
    cases hvalue
  | some value =>
    refine foldl_view_of_sets (fun entries : Entries => entries.heard s) mentions
      (fun a hmem hmentions => ?_) hkeep (hgiven value hs) current
    obtain ⟨value', hvalue', hheard⟩ := hset a hmem hmentions
    rw [hs, Option.some_inj] at hvalue'
    exact hvalue' ▸ hheard

end Entries

/-! ## What an entry laid over others changes -/

namespace SettingsReader.Lawful

variable {reader : SettingsReader} {key : String} {path : List String} {entry : Entry}
variable {s : Setting}

theorem heard_set_of_apart (h : reader.Lawful) (hkey : Denotes key path)
    (hapart : Apart path s.path) (entry : Entry) (entries : Entries) :
    (reader.set key entry entries).heard s = entries.heard s := by
  rw [Entries.heard, h.set_apart hkey hapart, Entries.heard]

theorem heard_set_scalar (h : reader.Lawful) (hkey : Denotes key s.path) {value : Scalar}
    (hvalue : entry.scalar? = some value) (entries : Entries) :
    (reader.set key entry entries).heard s = some (some value) := by
  obtain ⟨found, hfound, hscalar⟩ :=
    Option.bind_eq_some_iff.mp (h.set_scalar hkey hvalue entries)
  rw [Entries.heard, hfound, Option.map_some, hscalar]

/-- A key denotes no two paths that lie apart. -/
theorem not_apart (h : reader.Lawful) {other : List String} (hkey : Denotes key path)
    (hother : Denotes key other) : ¬Apart path other := by
  intro hapart
  have hne : other ≠ [] := by
    rintro rfl
    exact hapart.2 nil_prefix
  have hset : ((reader.set key .nothing []).reach? other).bind Entry.scalar? = some .nothing :=
    h.set_scalar hother rfl []
  rw [h.set_apart hkey hapart, Entries.reach?_nil hne] at hset
  cases hset

/-- What is set below a section or beside it leaves sections as they are. -/
theorem sectioned_set (h : reader.Lawful) {entries : Entries} (hentries : entries.Sectioned)
    (hkey : Denotes key path) (hpath : ∀ s : Setting, path = s.path ∨ Apart path s.path)
    (entry : Entry) : (reader.set key entry entries).Sectioned := by
  intro s found hfound
  match path with
  | [] =>
    rcases hpath s with he | hapart
    · cases he
    · exact absurd nil_prefix hapart.1
  | [name] =>
    have hne : name ≠ s.home := by
      rintro rfl
      rcases hpath s with he | hapart
      · cases he
      · exact hapart.1 ⟨[s.key], rfl⟩
    have hapart : Apart [name] [s.home] := by simp [Apart, hne, hne.symm]
    rw [h.set_apart hkey hapart] at hfound
    exact hentries s found hfound
  | name :: next :: rest =>
    by_cases hname : name = s.home
    · subst hname
      have hthrough : Denotes key ([s.home] ++ next :: rest) := hkey
      obtain ⟨other, members, hother, hmembers⟩ :=
        h.set_through hthrough (cons_ne_nil next rest) entry entries
      rw [hother, Option.some_inj] at hfound
      exact ⟨members, hfound ▸ hmembers⟩
    · have hapart : Apart (name :: next :: rest) [s.home] := by
        simp [Apart, hname, Ne.symm hname]
      rw [h.set_apart hkey hapart] at hfound
      exact hentries s found hfound

end SettingsReader.Lawful

/-! ## Laying a file over entries -/

namespace Entries

theorem gives_nil : Gives [] fun _ => none where
  plain := by
    intro member hmem
    cases hmem
  sections := by
    intro s entry hmem
    cases hmem
  given := by
    intro s value hs
    cases hs

theorem gives_only (origin origin' : Option String) (s : Setting) (value : s.Value) :
    Gives [(s.home, .table origin [(s.key, .leaf origin' (s.scalar value))])] (s.only value) where
  plain := by
    intro member hmem
    obtain rfl := mem_singleton.mp hmem
    exact s.home_plain
  sections := by
    intro t entry hmem
    obtain ⟨hhome, rfl⟩ := Prod.mk.inj (mem_singleton.mp hmem)
    refine ⟨_, ⟨origin, rfl⟩, fun inner hinner => ?_⟩
    obtain ⟨hkey, rfl⟩ := Prod.mk.inj (mem_singleton.mp hinner)
    obtain rfl := Setting.eq_of_home_of_key hhome hkey
    exact ⟨value, Setting.only_self t value, rfl⟩
  given := by
    intro t value' ht
    by_cases hts : t = s
    · subst hts
      exact ⟨_, _, _, mem_cons_self, ⟨origin, rfl⟩, mem_cons_self⟩
    · rw [Setting.only_of_ne hts] at ht
      cases ht

def Mentions (s : Setting) (member : String × Entry) : Prop :=
  member.1 = s.home ∧ ∃ inner, (s.key, inner) ∈ member.2.opened.2

namespace Gives

variable {reader : SettingsReader} {source : Entries} {given : Assignment}
variable {member : String × Entry} {s : Setting}

theorem denotes (h : source.Gives given) (hmem : member ∈ source) :
    Denotes member.1 [member.1] :=
  .plain (h.plain member hmem).1 (h.plain member hmem).2

theorem heard_set_of_mentions (h : source.Gives given) (hr : reader.Lawful)
    (hmem : member ∈ source) (hmentions : Mentions s member) :
    ∃ value, given s = some value ∧ ∀ current : Entries,
      (reader.set member.1 member.2 current).heard s = some (some (s.scalar value)) := by
  have hkey := h.denotes hmem
  obtain ⟨name, entry⟩ := member
  obtain ⟨rfl, inner, hinner⟩ := hmentions
  obtain ⟨members, hmembers, htyped⟩ := h.sections s entry hmem
  obtain ⟨origin, rfl⟩ := id hmembers
  obtain ⟨value, hvalue, -⟩ := htyped inner hinner
  refine ⟨value, hvalue, fun current => ?_⟩
  obtain ⟨found, merged, hfound, ⟨_, rfl⟩, hmerged⟩ := hr.set_table hkey hmembers current
  have hscalar := (hmerged s.key).2 (s.scalar value) ⟨inner, hinner⟩ fun other hother => by
    obtain ⟨value', hvalue', hother⟩ := htyped other hother
    rw [hother, Option.some_inj.mp (hvalue.symm.trans hvalue')]
  rw [reach?_singleton] at hfound
  rw [heard, Setting.path, reach?_pair, inside, hfound]
  obtain ⟨last, hlast, hvalue⟩ := Option.bind_eq_some_iff.mp hscalar
  exact (congrArg (Option.map Entry.scalar?) hlast).trans (congrArg some hvalue)

theorem heard_set_of_not_mentions (h : source.Gives given) (hr : reader.Lawful)
    (hmem : member ∈ source) (hno : ¬Mentions s member) (current : Entries) :
    (reader.set member.1 member.2 current).heard s = current.heard s := by
  have hkey := h.denotes hmem
  obtain ⟨name, entry⟩ := member
  by_cases hname : name = s.home
  · subst hname
    obtain ⟨members, hmembers, -⟩ := h.sections s entry hmem
    obtain ⟨origin, rfl⟩ := id hmembers
    obtain ⟨found, merged, hfound, ⟨_, rfl⟩, hmerged⟩ := hr.set_table hkey hmembers current
    have hkept := (hmerged s.key).1 fun inner hinner => hno ⟨rfl, inner, hinner⟩
    rw [reach?_singleton] at hfound
    rw [heard, heard, Setting.path, reach?_pair, inside, hfound]
    exact congrArg (Option.map Entry.scalar?) hkept
  · have hne : ¬s.home = name := Ne.symm hname
    exact hr.heard_set_of_apart hkey (by simp [Apart, Setting.path, hname, hne]) entry current

theorem heard_layer (h : source.Gives given) (hr : reader.Lawful) (current : Entries)
    (s : Setting) : (reader.layer source current).heard s =
      ((given s).map fun value => some (s.scalar value)).or (current.heard s) := by
  refine heard_foldl (Mentions s) ?_ ?_ ?_ current
  · intro member hmem hmentions
    exact h.heard_set_of_mentions hr hmem hmentions
  · intro member hmem hno entries
    exact h.heard_set_of_not_mentions hr hmem hno entries
  · intro value hvalue
    obtain ⟨entry, members, inner, hmem, ⟨origin, rfl⟩, hinner⟩ := h.given s value hvalue
    exact ⟨_, hmem, rfl, inner, hinner⟩

theorem sectioned_layer (h : source.Gives given) (hr : reader.Lawful) {current : Entries}
    (hcurrent : current.Sectioned) : (reader.layer source current).Sectioned := by
  refine foldlRecOn source _ hcurrent fun entries hentries member hmem => ?_
  intro s found hfound
  have hkey := h.denotes hmem
  obtain ⟨name, entry⟩ := member
  by_cases hname : name = s.home
  · subst hname
    obtain ⟨members, hmembers, -⟩ := h.sections s entry hmem
    obtain ⟨other, merged, hother, hmerged, -⟩ := hr.set_table hkey hmembers entries
    rw [hother, Option.some_inj] at hfound
    exact ⟨merged, hfound ▸ hmerged⟩
  · have hapart : Apart [name] [s.home] := by simp [Apart, hname, Ne.symm hname]
    rw [hr.set_apart hkey hapart] at hfound
    exact hentries s found hfound

end Gives

end Entries

/-! ## Laying variables over entries -/

namespace Environment

theorem settingKey?_of_names {s : Setting} {name : String} (h : s.Names name) :
    settingKey? name = some (s.home ++ "." ++ s.key) := by
  have hfront : Text.lowercase (Settings.variableFront ++ Settings.variableSeparator) =
      "radio_mac__" := by decide +kernel
  rw [settingKey?, key?, h, hfront]
  cases s <;> decide

theorem scalar_of_spells {s : Setting} {text : String} {value : s.Value} {scalar : Scalar}
    (h : s.Spells text value) (hreads : Reads text scalar) : scalar = s.scalar value := by
  cases s with
  | csmaCa | ackTimeout | delayedTrx | ifs => exact hreads.truth _ h
  | level | format =>
    obtain ⟨rfl, htrue, hfalse, hinteger, hreal⟩ := h
    exact hreads.word htrue hfalse hinteger hreal

theorem gives_only {s : Setting} {name text : String} {value : s.Value} (hname : s.Names name)
    (htext : s.Spells text value) : Gives [(name, text)] (s.only value) where
  spoken := by
    intro name' text' hmem
    obtain ⟨rfl, rfl⟩ := Prod.mk.inj (mem_singleton.mp hmem)
    exact .inl ⟨s, hname, value, Setting.only_self s value, htext⟩
  given := by
    intro t value' ht
    by_cases hts : t = s
    · subst hts
      exact ⟨name, text, mem_cons_self, hname⟩
    · rw [Setting.only_of_ne hts] at ht
      cases ht

namespace Gives

variable {reader : SettingsReader} {environment : List (String × String)} {given : Assignment}
variable {key : String} {entry : Entry} {s : Setting}

/-- What variables say about settings are the values given; what else they say lies apart. -/
theorem exists_path_of_mem (h : Gives environment given) (hr : reader.Lawful)
    (hmem : (key, entry) ∈
      reader.environment Settings.variableFront Settings.variableSeparator environment) :
    ∃ path, Denotes key path ∧ ∀ s : Setting,
      (path = s.path ∧ ∃ value, given s = some value ∧ entry.scalar? = some (s.scalar value)) ∨
        Apart path s.path := by
  obtain ⟨name, text, scalar, hname, hkey, hscalar, hreads⟩ := hr.environment_sound hmem
  rcases h.spoken name text hname with ⟨t, hnames, value, hvalue, hspells⟩ | helse
  · obtain rfl : key = t.home ++ "." ++ t.key :=
      Option.some_inj.mp (hkey.symm.trans (settingKey?_of_names hnames))
    refine ⟨t.path, t.denotes_path, fun s => ?_⟩
    by_cases hts : t = s
    · subst hts
      exact .inl ⟨rfl, value, hvalue, by rw [hscalar, scalar_of_spells hspells hreads]⟩
    · exact .inr (Setting.apart_of_ne hts)
  · obtain ⟨path, hpath, hapart⟩ := helse key hkey
    exact ⟨path, hpath, fun s => .inr (hapart s)⟩

theorem heard_layer (h : Gives environment given) (hr : reader.Lawful) (current : Entries)
    (s : Setting) :
    (reader.layer (reader.environment Settings.variableFront Settings.variableSeparator environment)
        current).heard s =
      ((given s).map fun value => some (s.scalar value)).or (current.heard s) := by
  refine Entries.heard_foldl (fun member => Denotes member.1 s.path) ?_ ?_ ?_ current
  · rintro ⟨key, entry⟩ hmem hkey
    obtain ⟨path, hpath, hcases⟩ := h.exists_path_of_mem hr hmem
    rcases hcases s with ⟨-, value, hvalue, hscalar⟩ | hapart
    · exact ⟨value, hvalue, hr.heard_set_scalar hkey hscalar⟩
    · exact absurd hapart (hr.not_apart hpath hkey)
  · rintro ⟨key, entry⟩ hmem hno entries
    obtain ⟨path, hpath, hcases⟩ := h.exists_path_of_mem hr hmem
    rcases hcases s with ⟨rfl, -⟩ | hapart
    · exact absurd hpath hno
    · exact hr.heard_set_of_apart hpath hapart entry entries
  · intro value hvalue
    obtain ⟨name, text, hmem, hnames⟩ := h.given s value hvalue
    obtain ⟨entry, hentry⟩ := hr.environment_complete hmem (settingKey?_of_names hnames)
    exact ⟨_, hentry, s.denotes_path⟩

theorem sectioned_layer (h : Gives environment given) (hr : reader.Lawful) {current : Entries}
    (hcurrent : current.Sectioned) :
    (reader.layer (reader.environment Settings.variableFront Settings.variableSeparator environment)
      current).Sectioned := by
  refine foldlRecOn _ _ hcurrent fun entries hentries member hmem => ?_
  obtain ⟨path, hpath, hcases⟩ := h.exists_path_of_mem hr hmem
  exact hr.sectioned_set hentries hpath (fun s => (hcases s).imp_left And.left) member.2

end Gives

end Environment

end MacDispatch
