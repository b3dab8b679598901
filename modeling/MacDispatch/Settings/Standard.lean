import MacDispatch.Settings.Environment
import MacDispatch.Settings.KeyPath
import MacDispatch.Settings.Source

/-! # The standard reader

The reader with which the program loads its settings. -/

namespace MacDispatch

namespace Scalar

def found : Scalar → Found
  | nothing => .nothing "unit value"
  | bool b => .bool b
  | integer n => .integer n
  | real x => .real x.pointed
  | text t => .string t

/-- The truth value of a scalar. A number is true unless it is zero, and some words are
understood in any case. -/
def bool? : Scalar → Except Found Bool
  | nothing => .error (.nothing "unit value")
  | bool b => .ok b
  | integer n => .ok (n != 0)
  | real x => .ok (!x.isZero)
  | text t =>
    let small := Text.lowercase t
    if ["1", "true", "on", "yes"].contains small then .ok true
    else if ["0", "false", "off", "no"].contains small then .ok false
    else .error (.string small)

def text? : Scalar → Except Found String
  | nothing => .error (.nothing "unit value")
  | bool b => .ok (if b then "true" else "false")
  | integer n => .ok (toString n)
  | real x => .ok x.plain
  | text t => .ok t

end Scalar

namespace Entry

/-- The setting that an entry describes; `read` takes it from a scalar. -/
def setting {α : Type} (read : Scalar → Except Found α) (expected key : String) :
    Entry → Except SettingFault α
  | leaf origin scalar =>
    match read scalar with
    | .ok a => .ok a
    | .error found => .error (.setting found expected key origin)
  | list origin _ => .error (.setting .sequence expected key origin)
  | table origin _ => .error (.setting .map expected key origin)

def bool (key : String) : Entry → Except SettingFault Bool := setting Scalar.bool? "a boolean" key

def text (key : String) : Entry → Except SettingFault String :=
  setting Scalar.text? "a string" key

end Entry

namespace SectionView

/-- The view of the section with the given key. Settings are found by name in a table and by
position in a list. -/
def ofEntry (key expected : String) : Entry → Except SettingFault SectionView
  | .table _ members => .ok ⟨fun _ name => key ++ "." ++ name, fun _ name => members.lookup name⟩
  | .list _ items =>
    .ok ⟨fun position _ => key ++ "[" ++ toString position ++ "]",
      fun position _ => items[position]?⟩
  | .leaf _ scalar => .error (.section scalar.found ("struct " ++ expected) key)

end SectionView

namespace SettingsReader

/-- The standard reader, given what the texts of files say. -/
def standard (read : FormatReader) : SettingsReader where
  file := read.file
  environment := Environment.entries
  set key entry entries := (KeyPath.ofText key).alter (Entry.lay entry) entries
  view := SectionView.ofEntry
  bool := Entry.bool
  text := Entry.text

def basic : SettingsReader := standard FormatReader.basic

end SettingsReader

end MacDispatch
