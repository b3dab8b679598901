import MacDispatch.Vocabulary

/-! # Failures

A failure has a kind, a message and, at times, the text of an underlying cause. -/

namespace MacDispatch

/-- The categories of failure. -/
inductive ErrorKind
  /-- A configuration source could not be read or is malformed. -/
  | configuration
  /-- A hook table or a feature set breaks a rule of assembly. -/
  | validation
  /-- A value could not be written or read back. -/
  | serialization
  /-- Reading or writing outside the program failed. -/
  | io
  | internal
deriving DecidableEq, Repr

namespace ErrorKind

def name : ErrorKind → String
  | configuration => "Configuration"
  | validation => "Validation"
  | serialization => "Serialization"
  | io => "Io"
  | internal => "Internal"

def heading : ErrorKind → String
  | configuration => "CONFIGURATION"
  | validation => "VALIDATION"
  | serialization => "SERIALIZATION"
  | io => "IO"
  | internal => "INTERNAL"

instance : Vocabulary ErrorKind where
  noun := "ErrorKind"
  all := [configuration, validation, serialization, io, internal]
  name := name
  tag := name
  mem_all a := by cases a <;> decide
  name_injective a b := by cases a <;> cases b <;> decide

end ErrorKind

structure Failure where
  kind : ErrorKind
  message : String
  /-- The text of the underlying cause. -/
  source : Option String := none
deriving DecidableEq, Repr

namespace Failure

def configuration (message : String) : Failure := ⟨.configuration, message, none⟩

def validation (message : String) : Failure := ⟨.validation, message, none⟩

def internal (message : String) : Failure := ⟨.internal, message, none⟩

def io (cause : String) : Failure := ⟨.io, "I/O error: " ++ cause, some cause⟩

def json (cause : String) : Failure :=
  ⟨.serialization, "JSON serialization error: " ++ cause, some cause⟩

def settingsSource (cause : String) : Failure :=
  ⟨.configuration, "Configuration error: " ++ cause, some cause⟩

def unknownName (α : Type) [Vocabulary α] (text : String) : Failure :=
  validation (Vocabulary.unknown α text)

def text (f : Failure) : String := f.kind.heading ++ ": " ++ f.message

/-- A copy keeps kind and message and loses the cause. -/
def copy (f : Failure) : Failure := { f with source := none }

end Failure

/-- Reads a name, or fails saying that the vocabulary does not have it. -/
def Vocabulary.parse (α : Type) [Vocabulary α] (text : String) : Except Failure α :=
  match Vocabulary.ofName? text with
  | some a => .ok a
  | none => .error (.unknownName α text)

/-- A name is read exactly when it is the value's own. -/
theorem Vocabulary.parse_eq_ok_iff {α : Type} [Vocabulary α] {text : String} {a : α} :
    Vocabulary.parse α text = .ok a ↔ text = Vocabulary.name a := by
  rw [← ofName?_eq_some_iff, Vocabulary.parse]
  split <;> simp_all

end MacDispatch
