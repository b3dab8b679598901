import MacDispatch.Decimal.Bounds
import MacDispatch.Json.Reader
import MacDispatch.Settings.Reader
import MacDispatch.Toml.Document

/-! # Settings files

A settings file is found under its own name, if the ending of the name tells its format, or
under its name with such an ending added. What its text says depends on the format. Texts in TOML
and in JSON are read here; for those in other formats, a reader has to be given. -/

namespace MacDispatch

namespace Entry

mutual

def ofToml (origin : String) : Toml → Entry
  | .string text => leaf origin (.text text)
  | .integer n => leaf origin (.integer n)
  | .real x => leaf origin (.real x)
  | .bool b => leaf origin (.bool b)
  | .datetime text => leaf origin (.text text)
  | .array items => list origin (itemsOfToml origin items)
  | .table members => table origin (membersOfToml origin members)

private def itemsOfToml (origin : String) : List Toml → List Entry
  | [] => []
  | item :: rest => ofToml origin item :: itemsOfToml origin rest

def membersOfToml (origin : String) : List (String × Toml) → Entries
  | [] => []
  | (key, value) :: rest => (key, ofToml origin value) :: membersOfToml origin rest

end

mutual

def ofJson (origin : String) : Json → Entry
  | .null => leaf origin .nothing
  | .bool b => leaf origin (.bool b)
  | .number (.integer n) => leaf origin (.integer n)
  | .number (.real x) => leaf origin (.real x)
  | .string text => leaf origin (.text text)
  | .array items => list origin (itemsOfJson origin items)
  | .object members => table origin (membersOfJson origin members)

private def itemsOfJson (origin : String) : List Json → List Entry
  | [] => []
  | item :: rest => ofJson origin item :: itemsOfJson origin rest

def membersOfJson (origin : String) : List (String × Json) → Entries
  | [] => []
  | (key, value) :: rest => (key, ofJson origin value) :: membersOfJson origin rest

end

end Entry

inductive FileFormat
  | toml
  | json
  | yaml
  | ini
  | ron
  | json5
deriving DecidableEq, Repr

namespace FileFormat

def endings : FileFormat → List String
  | toml => ["toml"]
  | json => ["json"]
  | yaml => ["yaml", "yml"]
  | ini => ["ini"]
  | ron => ["ron"]
  | json5 => ["json5"]

/-- Every format, in the order in which endings are tried. -/
def all : List FileFormat := [toml, json, yaml, ini, ron, json5]

end FileFormat

/-- A settings file that was found: its path in plain form, its format and its text. -/
structure SettingsFile where
  path : String
  format : FileFormat
  text : String
deriving DecidableEq, Repr

namespace SettingsFile

/-- The path to which a format adds its ending: the ending of a name that has one already is kept,
for which a stand-in is put behind the name, to be replaced by the other ending. -/
private def stem (name : String) : FilePath :=
  let path := FilePath.ofText name
  if path.extension?.isSome then FilePath.ofText (name ++ ".placeholder") else path

/-- The paths at which a settings file is looked for when there is none under its own name. -/
private def alternatives (name : String) : List (FileFormat × FilePath) :=
  FileFormat.all.flatMap fun format => format.endings.filterMap fun ending =>
    ((stem name).withExtension? ending).map fun path => (format, path)

def places (name : String) : List FilePath :=
  FilePath.ofText name :: (alternatives name).map Prod.snd

def find (tree : FileTree) (name : String) : Except FileFault SettingsFile :=
  let path := FilePath.ofText name
  match tree.read? path with
  | some text =>
    match FileFormat.all.find? fun format => path.extension?.any format.endings.contains with
    | some format => .ok ⟨path.text, format, text⟩
    | none => .error (.unknownFormat name)
  | none =>
    let found := (alternatives name).findSome? fun (format, path) => do
      return ⟨path.text, format, ← tree.read? path⟩
    match found with
    | some file => .ok file
    | none => .error (.notFound name)

/-- Without a file at any of its places, a settings file is not found. -/
theorem find_of_missing {tree : FileTree} {name : String}
    (h : ∀ place ∈ places name, tree.read? place = none) :
    find tree name = .error (.notFound name) := by
  have hname : tree.read? (FilePath.ofText name) = none := h _ List.mem_cons_self
  have hfound : ((alternatives name).findSome? fun (format, path) => do
      return (⟨path.text, format, ← tree.read? path⟩ : SettingsFile)) = none := by
    rw [List.findSome?_eq_none_iff]
    rintro ⟨format, path⟩ hmem
    have hpath : tree.read? path = none :=
      h path (List.mem_cons_of_mem _ (List.mem_map_of_mem hmem))
    simp [hpath]
  simp only [find, hname, hfound]

end SettingsFile

/-- What the texts of files say, each with its path, by their format. -/
abbrev FormatReader := FileFormat → (path text : String) → Except FileFault Entries

namespace FormatReader

/-- A text without a byte order mark at its front. -/
private def withoutMark (text : String) : String :=
  if text.toList.head? == some '\uFEFF' then String.ofList (text.toList.drop 1) else text

/-- What a text in TOML says, which may begin with a byte order mark. -/
def toml (path text : String) : Except FileFault Entries :=
  match Toml.ofText? (withoutMark text) with
  | some members => .ok (Entry.membersOfToml path members)
  | none => .error (.malformed path)

/-- What was found at the root of a JSON text, in words. -/
private def rootText : Json → String
  | .null => "unit value"
  | .bool b => (Found.bool b).text
  | .number (.integer n) =>
    (if fitsInteger n then "64-bit integer" else "64-bit unsigned integer")
      ++ " `" ++ toString n ++ "`"
  | .number (.real x) => (Found.real x.plain).text
  | .string text => (Found.string text).text
  | .array _ => Found.sequence.text
  | .object _ => Found.map.text

def json (path text : String) : Except FileFault Entries :=
  match Json.ofText? text with
  | some (.object members) => .ok (Entry.membersOfJson path members)
  | some value => .error (.root (rootText value) path)
  | none => .error (.malformed path)

/-- Texts in TOML and in JSON are read, and no others. -/
def basic : FormatReader
  | .toml, path, text => toml path text
  | .json, path, text => json path text
  | _, path, _ => .error (.unread path)

def entries (read : FormatReader) (file : SettingsFile) : Except FileFault Entries :=
  read file.format file.path (withoutMark file.text)

/-- A file in TOML, if it does not begin with a mark, says what its text says. -/
theorem entries_basic_of_toml {path text : String} {members : List (String × Toml)}
    (hmark : text.toList.head? ≠ some '\uFEFF') (h : Toml.ofText? text = some members) :
    basic.entries ⟨path, .toml, text⟩ = .ok (Entry.membersOfToml path members) := by
  simp [entries, basic, toml, withoutMark, hmark, h]

/-- What the named settings file says. One that need not be there says nothing if it cannot be
found. -/
def file (read : FormatReader) (tree : FileTree) (name : String) (required : Bool) :
    Except FileFault Entries :=
  match SettingsFile.find tree name with
  | .ok file => read.entries file
  | .error fault => if required then .error fault else .ok []

end FormatReader

end MacDispatch
