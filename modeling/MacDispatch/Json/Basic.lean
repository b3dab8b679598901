import MacDispatch.Decimal.Shortest

/-! # JSON values

Objects keep their members in order. `Json.ofMembers` gives the canonical order, in which keys
ascend by code point and the last of several members with one key is kept. -/

namespace MacDispatch

/-- A number as JSON holds it: a 64-bit integer of either kind, or a double. -/
inductive Number
  | integer (value : Int)
  | real (value : Binary64)
deriving DecidableEq, Repr

inductive Json
  | null
  | bool (value : Bool)
  | number (value : Number)
  | string (text : String)
  | array (items : List Json)
  | object (members : List (String × Json))
deriving Repr

namespace Json

def nat (n : Nat) : Json := number (.integer n)

/-- A text, or null where there is none. -/
def text? : Option String → Json
  | some text => string text
  | none => null

def bool? : Option Bool → Json
  | some b => bool b
  | none => null

/-- Puts a member in its place among members with ascending keys; one that is there is replaced. -/
def insertMember (key : String) (value : Json) : List (String × Json) → List (String × Json)
  | [] => [(key, value)]
  | (k, v) :: rest =>
    if key < k then (key, value) :: (k, v) :: rest
    else if key = k then (key, value) :: rest
    else (k, v) :: insertMember key value rest

/-- The object with the given members in canonical order. -/
def ofMembers (members : List (String × Json)) : Json :=
  object (members.foldl (fun kept member => insertMember member.1 member.2 kept) [])

def get? : Json → String → Option Json
  | object members, key => members.lookup key
  | _, _ => none

end Json

end MacDispatch
