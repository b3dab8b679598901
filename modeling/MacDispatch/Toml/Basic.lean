import MacDispatch.Decimal.Shortest

/-! # TOML values

A document is a table. Dates and times are kept as their text. -/

namespace MacDispatch

inductive Toml
  | string (text : String)
  | integer (value : Int)
  | real (value : Binary64)
  | bool (value : Bool)
  | datetime (text : String)
  | array (items : List Toml)
  | table (members : List (String × Toml))

inductive TomlStatement
  /-- `[path]`: the statements that follow belong to this table. -/
  | header (path : List String)
  /-- `[[path]]`: they belong to a new table at the end of this list. -/
  | element (path : List String)
  /-- `path = value` -/
  | entry (path : List String) (value : Toml)

end MacDispatch
