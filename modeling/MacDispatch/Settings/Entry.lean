import MacDispatch.Decimal.Binary64

/-! # Entries

What sources say about settings, before it is known what it means. An entry remembers where it
came from. -/

namespace MacDispatch

/-- A value without parts. -/
inductive Scalar
  | nothing
  | bool (value : Bool)
  | integer (value : Int)
  | real (value : Binary64)
  | text (value : String)
deriving DecidableEq, Repr

/-- What is said about a setting or a section; `origin` names the source. -/
inductive Entry
  | leaf (origin : Option String) (value : Scalar)
  | list (origin : Option String) (items : List Entry)
  | table (origin : Option String) (members : List (String × Entry))

abbrev Entries := List (String × Entry)

def Entries.get? (entries : Entries) (name : String) : Option Entry := entries.lookup name

namespace Entry

/-- An entry about which nothing is said. -/
def nothing : Entry := leaf none .nothing

/-- The members of a table; any other entry gives way to a table of no origin. -/
def opened : Entry → Option String × Entries
  | table origin members => (origin, members)
  | _ => (none, [])

end Entry

end MacDispatch
