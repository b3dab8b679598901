import MacDispatch.Proofs.Readers
import MacDispatch.Settings.Standard

/-! # The standard reader

Main statement: the standard reader is lawful, whatever it takes the texts of files to say. -/

namespace MacDispatch

open List

/-! ## Changing the entry at a path -/

theorem Entry.getD_within?_nothing (path : List String) :
    (nothing.within? path).getD nothing = nothing := by
  cases path <;> rfl

theorem Entry.within?_concat (path : List String) (name : String) (entry : Entry) :
    entry.within? (path ++ [name]) = ((entry.within? path).getD nothing).opened.2.get? name := by
  induction path generalizing entry with
  | nil => exact Option.bind_fun_some _
  | cons next rest ih =>
    rw [cons_append, within?, within?]
    cases entry.opened.2.get? next with
    | none => rfl
    | some inner => exact ih inner

theorem Entries.reach?_concat (entries : Entries) (path : List String) (name : String) :
    entries.reach? (path ++ [name]) =
      ((entries.reach? path).getD .nothing).opened.2.get? name :=
  Entry.within?_concat ..

namespace KeyPath

variable (change : Entry → Entry)

theorem within?_alterAt_self (path : List String) (entry : Entry) :
    (alterAt change (path.map .key) entry).within? path =
      some (change ((entry.within? path).getD .nothing)) := by
  induction path generalizing entry with
  | nil => rfl
  | cons name rest ih =>
    have hinner : (((entry.opened.2.get? name).getD .nothing).within? rest).getD .nothing =
        (entry.within? (name :: rest)).getD .nothing := by
      rw [Entry.within?]
      cases entry.opened.2.get? name with
      | none => exact Entry.getD_within?_nothing rest
      | some inner => rfl
    rw [map_cons, alterAt, Entry.within?, Entry.opened, Entries.get?_alter_self, Option.bind_some,
      ih, hinner]

theorem within?_alterAt_of_apart {path other : List String} (h : Apart path other)
    (entry : Entry) :
    (alterAt change (path.map .key) entry).within? other = entry.within? other := by
  induction path generalizing entry other with
  | nil => exact absurd nil_prefix h.1
  | cons name rest ih =>
    cases other with
    | nil => exact absurd nil_prefix h.2
    | cons next last =>
      rw [map_cons, alterAt, Entry.within?, Entry.within?, Entry.opened]
      by_cases hname : next = name
      · subst hname
        have hrest : Apart rest last := by simpa [Apart] using h
        rw [Entries.get?_alter_self, Option.bind_some, ih hrest]
        cases entry.opened.2.get? next with
        | some inner => rfl
        | none =>
          -- There was nothing, and the other path leads on.
          obtain ⟨first, later, rfl⟩ := exists_cons_of_ne_nil fun he : last = [] =>
            hrest.2 (he ▸ nil_prefix)
          rfl
      · rw [Entries.get?_alter_of_ne hname]

/-- What is changed below a path is found in a table. -/
theorem exists_within?_alterAt {front rest : List String} (hrest : rest ≠ []) (entry : Entry) :
    ∃ found members, (alterAt change ((front ++ rest).map .key) entry).within? front =
      some found ∧ found.HasMembers members := by
  induction front generalizing entry with
  | nil =>
    obtain ⟨name, rest, rfl⟩ := exists_cons_of_ne_nil hrest
    exact ⟨_, _, rfl, _, rfl⟩
  | cons name front ih =>
    rw [cons_append, map_cons, alterAt, Entry.within?, Entry.opened, Entries.get?_alter_self,
      Option.bind_some]
    exact ih _

theorem ofText_of_denotes {key : String} {path : List String} (h : Denotes key path) :
    ∃ root rest, path = root :: rest ∧ ofText key = ⟨root, rest.map .key⟩ := by
  cases h with
  | plain hpoint hbracket => exact ⟨key, [], rfl, ofText_of_plain hpoint hbracket⟩
  | dotted hne hnames =>
    obtain ⟨root, rest, rfl⟩ := exists_cons_of_ne_nil hne
    exact ⟨root, rest, rfl, ofText_intercalate hnames⟩

end KeyPath

/-! ## Laying entries over others -/

namespace Entry

theorem lay_of_scalar? {entry : Entry} {value : Scalar} (h : entry.scalar? = some value)
    (current : Entry) : entry.lay current = entry := by
  cases entry with
  | leaf => rw [lay]; simp
  | list => cases h
  | table => cases h

theorem layMembers_eq_foldl (incoming current : Entries) :
    layMembers incoming current =
      incoming.foldl (fun entries member => Entries.alter member.1 member.2.lay entries)
        current := by
  induction incoming generalizing current with
  | nil => rw [layMembers, foldl_nil]
  | cons member rest ih => rw [layMembers, ih, foldl_cons]

theorem get?_layMembers_of_notMem {name : String} {incoming : Entries}
    (h : ∀ member, (name, member) ∉ incoming) (current : Entries) :
    (layMembers incoming current).get? name = current.get? name := by
  rw [layMembers_eq_foldl]
  refine foldl_view_of_keeps (fun entries : Entries => entries.get? name) ?_ current
  rintro ⟨other, member⟩ hmem entries
  have hne : name ≠ other := by
    rintro rfl
    exact h member hmem
  exact Entries.get?_alter_of_ne hne _ _

theorem get?_layMembers_of_mem {name : String} {incoming : Entries} {value : Scalar}
    (hmem : ∃ member, (name, member) ∈ incoming)
    (hvalue : ∀ member, (name, member) ∈ incoming → member.scalar? = some value)
    (current : Entries) :
    ((layMembers incoming current).get? name).bind scalar? = some value := by
  rw [layMembers_eq_foldl]
  refine foldl_view_of_sets (fun entries : Entries => (entries.get? name).bind scalar?)
    (fun member : String × Entry => member.1 = name) ?_ ?_ ?_ current
  · rintro ⟨_, member⟩ hmember rfl entries
    rw [Entries.get?_alter_self, lay_of_scalar? (hvalue member hmember), Option.bind_some,
      hvalue member hmember]
  · intro member _ hne entries
    rw [Entries.get?_alter_of_ne (Ne.symm hne)]
  · obtain ⟨member, hmember⟩ := hmem
    exact ⟨_, hmember, rfl⟩

end Entry

/-! ## Variables -/

theorem Environment.reads_scalar (text : String) : Reads text (scalar text) where
  truth := by
    intro b h
    cases b <;> simp [scalar, h]
  word := by
    intro htrue hfalse hinteger hreal
    simp [scalar, htrue, hfalse, hinteger, hreal]

/-! ## Settings -/

theorem Entry.setting_of_scalar? {α : Type} {read : Scalar → Except Found α} {entry : Entry}
    {scalar : Scalar} {value : α} (h : entry.scalar? = some scalar)
    (hread : read scalar = .ok value) (expected key : String) :
    entry.setting read expected key = .ok value := by
  cases entry with
  | leaf origin held =>
    obtain rfl : held = scalar := Option.some_inj.mp h
    rw [setting, hread]
  | list => cases h
  | table => cases h

namespace SettingsReader

variable (read : FormatReader)

theorem table_set_standard {key : String} {path : List String} (h : Denotes key path)
    (entry : Entry) (entries : Entries) :
    Entry.table none ((standard read).set key entry entries) =
      KeyPath.alterAt entry.lay (path.map .key) (.table none entries) := by
  obtain ⟨root, rest, rfl, hkey⟩ := KeyPath.ofText_of_denotes h
  have hset : (standard read).set key entry entries =
      (KeyPath.ofText key).alter entry.lay entries := rfl
  rw [hset, hkey]
  rfl

theorem standard_lawful : (standard read).Lawful where
  file_of_missing := by
    intro tree name hmissing
    have hfind := SettingsFile.find_of_missing hmissing
    have hfile (required : Bool) : (standard read).file tree name required =
        if required then .error (.notFound name) else .ok [] := by
      have hstandard : (standard read).file tree name required = read.file tree name required :=
        rfl
      rw [hstandard, FormatReader.file, hfind]
    exact ⟨hfile false, hfile true⟩
  environment_sound := by
    intro front separator environment key entry hmem
    obtain ⟨⟨name, text⟩, hname, hentry⟩ := mem_filterMap.mp hmem
    obtain ⟨key', hkey, he⟩ := Option.map_eq_some_iff.mp hentry
    cases he
    exact ⟨name, text, _, hname, hkey, rfl, Environment.reads_scalar text⟩
  environment_complete := by
    intro front separator environment name text key hmem hkey
    exact ⟨_, mem_filterMap.mpr ⟨(name, text), hmem, congrArg (Option.map _) hkey⟩⟩
  set_apart := by
    intro key path other hkey hapart entry entries
    rw [Entries.reach?, table_set_standard read hkey, KeyPath.within?_alterAt_of_apart _ hapart,
      Entries.reach?]
  set_scalar := by
    intro key path entry value hkey hvalue entries
    rw [Entries.reach?, table_set_standard read hkey, KeyPath.within?_alterAt_self,
      Entry.lay_of_scalar? hvalue, Option.bind_some, hvalue]
  set_through := by
    intro key front rest hkey hrest entry entries
    rw [Entries.reach?, table_set_standard read hkey]
    exact KeyPath.exists_within?_alterAt _ hrest _
  set_table := by
    rintro key path _ members hkey ⟨origin, rfl⟩ entries
    have hset : ((standard read).set key (.table origin members) entries).reach? path = some
        (.table ((entries.reach? path).getD .nothing).opened.1
          (Entry.layMembers members ((entries.reach? path).getD .nothing).opened.2)) := by
      rw [Entries.reach?, table_set_standard read hkey, KeyPath.within?_alterAt_self, Entry.lay,
        Entries.reach?]
    refine ⟨_, _, hset, ⟨_, rfl⟩, fun name => ⟨fun hno => ?_, fun value hsome hvalue => ?_⟩⟩
    · rw [Entry.get?_layMembers_of_notMem hno, Entries.reach?_concat]
    · exact Entry.get?_layMembers_of_mem hsome hvalue _
  view_table := by
    rintro _ members ⟨origin, rfl⟩ key expected
    exact ⟨_, rfl, fun _ _ => rfl⟩
  bool_of_bool := by
    intro entry b h key
    have hread : Scalar.bool? (.bool b) = .ok b := rfl
    exact Entry.setting_of_scalar? h hread _ _
  text_of_text := by
    intro entry text h key
    have hread : Scalar.text? (.text text) = .ok text := rfl
    exact Entry.setting_of_scalar? h hread _ _

end SettingsReader

end MacDispatch
