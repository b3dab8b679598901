import MacDispatch.Files.Tree
import MacDispatch.Json.Mismatch
import MacDispatch.Settings.Entry

/-! # Readers of settings

How settings files and variables are read is left open: a reader finds files and says what they
say, whatever their format; it says what variables say; it lays entries over others; and it takes
truth values, texts and sections from entries. -/

namespace MacDispatch

inductive FileFault
  | notFound (path : String)
  | unknownFormat (path : String)
  /-- There is no reader for the format of the file. -/
  | unread (path : String)
  | malformed (path : String)
  /-- The file holds something else than a table. -/
  | root (found : String) (path : String)
deriving DecidableEq, Repr

def FileFault.message : FileFault → String
  | notFound path => "configuration file \"" ++ path ++ "\" not found"
  | unknownFormat path =>
    "configuration file \"" ++ path ++ "\" is not of a registered file format"
  | unread path => "no reader for the text in " ++ path
  | malformed path => "malformed text in " ++ path
  | root found path =>
    "invalid type: " ++ found ++ ", expected a map in " ++ path ++ " in " ++ path

inductive SettingFault
  /-- The entry of a setting has the wrong kind. -/
  | setting (found : Found) (expected key : String) (origin : Option String)
  | section (found : Found) (expected key : String)
deriving DecidableEq, Repr

def SettingFault.message : SettingFault → String
  | setting found expected key origin =>
    "invalid type: " ++ found.text ++ ", expected " ++ expected ++ " for key `" ++ key ++ "`"
      ++ (match origin with
        | some origin => " in " ++ origin
        | none => "")
  | .section found expected key =>
    "invalid type: " ++ found.text ++ ", expected " ++ expected ++ " for key `" ++ key ++ "`"

/-- The part of a section that its entries say something about. -/
structure SectionView where
  /-- The key of a setting, given its position and name. -/
  key : Nat → String → String
  /-- The entry of a setting, given its position and name. -/
  entry? : Nat → String → Option Entry

/-- The setting at a position under a name, or the given value if nothing is said about it. -/
def SectionView.get {α : Type} (view : SectionView)
    (read : String → Entry → Except SettingFault α) (position : Nat) (name : String)
    (fallback : α) : Except SettingFault α :=
  match view.entry? position name with
  | some entry => read (view.key position name) entry
  | none => .ok fallback

/-- A reader of settings. -/
structure SettingsReader where
  /-- What the named file says. A file that need not be there may say nothing. -/
  file : FileTree → (name : String) → (required : Bool) → Except FileFault Entries
  /-- What the variables say whose names begin with a prefix, and whose parts stand between
  separators. -/
  environment : (front separator : String) → List (String × String) → Entries
  /-- Lays an entry over others, at the path that a key denotes. -/
  set : (key : String) → Entry → Entries → Entries
  /-- The section under a key. -/
  view : (key expected : String) → Entry → Except SettingFault SectionView
  /-- The truth value under a key. -/
  bool : (key : String) → Entry → Except SettingFault Bool
  /-- The text under a key. -/
  text : (key : String) → Entry → Except SettingFault String

/-- Lays what a source says over what was said before. -/
def SettingsReader.layer (reader : SettingsReader) (source current : Entries) : Entries :=
  source.foldl (fun entries (key, entry) => reader.set key entry entries) current

end MacDispatch
