import MacDispatch.Json.Writer
import MacDispatch.Log.Event

/-! # Log lines

An event as it is written to the log: an object for programs, or a line of text. -/

namespace MacDispatch

namespace FieldValue

def json : FieldValue → Json
  | text value => .string value
  | count value => .nat value
  | flag value => .bool value

def plain : FieldValue → String
  | text value => value
  | count value => toString value
  | flag value => toString value

end FieldValue

namespace Event

def allFields (event : Event) : List (String × FieldValue) :=
  ("message", .text event.message) :: event.fields

def json (event : Event) : Json :=
  .object [("level", .string event.level.name),
    ("fields", .object (event.allFields.map fun (name, value) => (name, value.json))),
    ("target", .string event.target)]

def plain (event : Event) : String :=
  " ".intercalate (event.level.name :: event.message ::
    event.fields.map fun (name, value) => name ++ "=" ++ value.plain)

end Event

end MacDispatch
