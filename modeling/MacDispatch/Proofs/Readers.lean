import MacDispatch.Settings.Environment
import MacDispatch.Settings.KeyPath
import MacDispatch.Settings.Source
import Mathlib.Data.List.Basic

/-! # Lawful readers

What is relied on of a reader of settings. Files are found under their names, variables stand for
the keys that their names say, an entry laid over others changes nothing beside the path of its
key, and a value of the right kind is read as it is. -/

namespace MacDispatch

open List

/-! ## Steps that set a view -/

section Views

variable {α β γ : Type} {step : β → α → β} (view : β → γ) {steps : List α}

theorem foldl_view_of_keeps (hkeep : ∀ a ∈ steps, ∀ b, view (step b a) = view b) (start : β) :
    view (steps.foldl step start) = view start := by
  induction steps generalizing start with
  | nil => rfl
  | cons a rest ih =>
    rw [foldl_cons, ih fun b hb => hkeep b (mem_cons_of_mem a hb), hkeep a mem_cons_self]

/-- Among steps that set a view to one value or leave it alone, any that sets it settles it. -/
theorem foldl_view_of_sets (sets : α → Prop) {value : γ}
    (hset : ∀ a ∈ steps, sets a → ∀ b, view (step b a) = value)
    (hkeep : ∀ a ∈ steps, ¬sets a → ∀ b, view (step b a) = view b)
    (hsome : ∃ a ∈ steps, sets a) (start : β) : view (steps.foldl step start) = value := by
  induction steps generalizing start with
  | nil => simp at hsome
  | cons a rest ih =>
    rw [foldl_cons]
    by_cases hlater : ∃ b ∈ rest, sets b
    · exact ih (fun b hb => hset b (mem_cons_of_mem a hb))
        (fun b hb => hkeep b (mem_cons_of_mem a hb)) hlater _
    · -- Nothing that follows sets the view, so the head does.
      have hrest : ∀ b ∈ rest, ¬sets b := fun b hb hsets => hlater ⟨b, hb, hsets⟩
      obtain ⟨b, hb, hsets⟩ := hsome
      rcases mem_cons.mp hb with rfl | hb
      · rw [foldl_view_of_keeps view fun c hc => hkeep c (mem_cons_of_mem b hc) (hrest c hc)]
        exact hset b mem_cons_self hsets start
      · exact absurd hsets (hrest b hb)

end Views

/-! ## Paths of names -/

/-- The key denotes the path through these names. -/
inductive Denotes : (key : String) → (path : List String) → Prop
  | plain {key : String} (hpoint : '.' ∉ key.toList) (hbracket : '[' ∉ key.toList) :
    Denotes key [key]
  | dotted {path : List String} (hne : path ≠ [])
    (hnames : ∀ name ∈ path, KeyPath.isName name = true) : Denotes (".".intercalate path) path

/-- Neither path leads on to the other. -/
def Apart (path other : List String) : Prop := ¬path <+: other ∧ ¬other <+: path

namespace Entry

/-- The value of an entry without parts. -/
def scalar? : Entry → Option Scalar
  | leaf _ value => some value
  | _ => none

/-- The entry is a table with these members. -/
def HasMembers (entry : Entry) (members : Entries) : Prop :=
  ∃ origin, entry = table origin members

/-- The entry at the end of a path within an entry. -/
def within? : List String → Entry → Option Entry
  | [], entry => some entry
  | name :: rest, entry => (entry.opened.2.get? name).bind (within? rest)

end Entry

/-- The entry at the end of a path. -/
def Entries.reach? (entries : Entries) (path : List String) : Option Entry :=
  (Entry.table none entries).within? path

/-! ## Laws -/

/-- The text of a variable stands for the value: for a truth value in any case, and for itself if
it would pass for no truth value and no number. -/
structure Environment.Reads (text : String) (value : Scalar) : Prop where
  truth : ∀ b : Bool, Text.lowercase text = (bif b then "true" else "false") → value = .bool b
  word : Text.lowercase text ≠ "true" → Text.lowercase text ≠ "false" → integer? text = none →
    real? text = none → value = .text text

/-- What is relied on of a reader. -/
structure SettingsReader.Lawful (reader : SettingsReader) : Prop where
  file_of_missing : ∀ {tree name},
    (∀ place ∈ SettingsFile.places name, tree.read? place = none) →
      reader.file tree name false = .ok [] ∧ reader.file tree name true = .error (.notFound name)
  /-- What variables say is said by one of them. -/
  environment_sound : ∀ {front separator environment key entry},
    (key, entry) ∈ reader.environment front separator environment →
      ∃ name text value, (name, text) ∈ environment ∧
        Environment.key? front separator name = some key ∧ entry.scalar? = some value ∧
          Environment.Reads text value
  /-- Of the variables for a key, one has a say. -/
  environment_complete : ∀ {front separator environment name text key},
    (name, text) ∈ environment → Environment.key? front separator name = some key →
      ∃ entry, (key, entry) ∈ reader.environment front separator environment
  set_apart : ∀ {key path other}, Denotes key path → Apart path other → ∀ entry entries,
    (reader.set key entry entries).reach? other = entries.reach? other
  set_scalar : ∀ {key path entry value}, Denotes key path → entry.scalar? = some value →
    ∀ entries, ((reader.set key entry entries).reach? path).bind Entry.scalar? = some value
  /-- A path leads through tables. -/
  set_through : ∀ {key front rest}, Denotes key (front ++ rest) → rest ≠ [] →
    ∀ entry entries, ∃ found members,
      (reader.set key entry entries).reach? front = some found ∧ found.HasMembers members
  /-- A table is merged, member by member, with what was there. -/
  set_table : ∀ {key path entry members}, Denotes key path → entry.HasMembers members →
    ∀ entries, ∃ found merged,
      (reader.set key entry entries).reach? path = some found ∧ found.HasMembers merged ∧
      ∀ name,
        ((∀ member, (name, member) ∉ members) →
          merged.get? name = entries.reach? (path ++ [name])) ∧
        ∀ value, (∃ member, (name, member) ∈ members) →
          (∀ member, (name, member) ∈ members → member.scalar? = some value) →
            (merged.get? name).bind Entry.scalar? = some value
  /-- The settings of a section are found under their names. -/
  view_table : ∀ {entry members}, entry.HasMembers members → ∀ key expected, ∃ view,
    reader.view key expected entry = .ok view ∧
      ∀ position name, view.entry? position name = members.get? name
  bool_of_bool : ∀ {entry b}, entry.scalar? = some (.bool b) →
    ∀ key, reader.bool key entry = .ok b
  text_of_text : ∀ {entry text}, entry.scalar? = some (.text text) →
    ∀ key, reader.text key entry = .ok text

end MacDispatch
