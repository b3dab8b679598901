import MacDispatch.Json.Writer
import MacDispatch.Report.Table
import MacDispatch.Text.Outline
import MacDispatch.Vocabulary

/-! # Output

What is written to the standard output: lists and single items in one of two formats, and
messages. -/

namespace MacDispatch

inductive OutputFormat
  | table
  | json
deriving DecidableEq, Repr

namespace OutputFormat

instance : Vocabulary OutputFormat where
  noun := "format"
  all := [table, json]
  name
    | table => "table"
    | json => "json"
  tag
    | table => "Table"
    | json => "Json"
  mem_all a := by cases a <;> decide
  name_injective a b := by cases a <;> cases b <;> decide

end OutputFormat

/-- A list in one cell: its elements with commas between them, or a dash if there are none. -/
def joined (elements : List String) : String :=
  if elements.isEmpty then "-" else ", ".intercalate elements

namespace Output

def line (text : String) : String := text ++ "\n"

/-- A list: a table with a row for each element, or a JSON array. -/
def list (format : OutputFormat) (table : Table) (json : Json) : String :=
  match format with
  | .table => line (if table.rows.isEmpty then "No results found." else table.draw)
  | .json => line json.pretty

/-- A single item: its outline as a block, or its JSON. -/
def item (format : OutputFormat) (outline : Text.Outline) (json : Json) : String :=
  match format with
  | .table => line outline.block
  | .json => line json.pretty

def success (message : String) : String := line ("✓ " ++ message)

def warning (message : String) : String := line ("⚠ " ++ message)

end Output

structure NamedValue where
  name : String
  value : String
deriving DecidableEq, Repr

namespace NamedValue

def json (row : NamedValue) : Json :=
  .object [("name", .string row.name), ("value", .string row.value)]

def outline (row : NamedValue) : Text.Outline :=
  .record "Row" [("name", .string row.name), ("value", .string row.value)]

def table (rows : List NamedValue) : Table where
  headings := ["name", "Value"]
  rows := rows.map fun row => [row.name, row.value]

def list (format : OutputFormat) (rows : List NamedValue) : String :=
  Output.list format (table rows) (.array (rows.map json))

def item (format : OutputFormat) (rows : List NamedValue) : String :=
  Output.item format (.list (rows.map outline)) (.array (rows.map json))

end NamedValue

end MacDispatch
