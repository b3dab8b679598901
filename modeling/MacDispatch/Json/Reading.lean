import MacDispatch.Json.Basic

/-! # Readings

A reading is what can be seen of a JSON text from its front: a tree that ends where the text is
faulty. Whoever asks for a value meets a fault only on reaching it, so an ill-typed value before
a fault is noticed first. -/

namespace MacDispatch

/-- Why a text cannot be read further: it ends too early, or breaks the grammar. -/
inductive Fault
  | truncated
  | malformed
deriving DecidableEq, Repr

/-- A string or number without a value. A value that is only passed over is checked less
strictly: `passing` is the fault that remains then. -/
structure Broken where
  fault : Fault
  passing : Option Fault
deriving DecidableEq, Repr

/-- What is seen of a value. -/
inductive Reading
  | null
  | bool (value : Bool)
  | number (value : Except Broken Number)
  | string (text : Except Broken String)
  /-- Items, and the fault that stands where the next comma or the bracket should be. -/
  | array (items : List Reading) (fault : Option Fault)
  /-- Members, and the fault that stands where the next comma or the brace should be. -/
  | object (members : List (Except Broken String × Reading)) (fault : Option Fault)
  /-- Something that begins as null does and goes on otherwise. -/
  | brokenNull (fault : Fault)
  /-- Anything else that is no value. -/
  | faulty (fault : Fault)
  | absent

/-- A whole text: its value, and whether anything stands behind it. -/
structure Document where
  value : Reading
  trailing : Bool

namespace Reading

mutual

/-- A value without faults, as a reading of it shows it. -/
def ofJson : Json → Reading
  | .null => null
  | .bool b => bool b
  | .number n => number (.ok n)
  | .string text => string (.ok text)
  | .array items => array (ofItems items) none
  | .object members => object (ofMembers members) none

/-- The items of an array without faults. -/
def ofItems : List Json → List Reading
  | [] => []
  | item :: rest => ofJson item :: ofItems rest

def ofMembers : List (String × Json) → List (Except Broken String × Reading)
  | [] => []
  | (key, value) :: rest => (.ok key, ofJson value) :: ofMembers rest

end

private def passingOf {α : Type} : Except Broken α → Option Fault
  | .ok _ => none
  | .error broken => broken.passing

mutual

/-- The fault met by a reader that passes over the value. -/
def passing : Reading → Option Fault
  | null => none
  | bool _ => none
  | number value => passingOf value
  | string text => passingOf text
  | array items fault => passingItems items <|> fault
  | object members fault => passingMembers members <|> fault
  | brokenNull fault => some fault
  | faulty fault => some fault
  | absent => some .truncated

private def passingItems : List Reading → Option Fault
  | [] => none
  | item :: rest => passing item <|> passingItems rest

private def passingMembers : List (Except Broken String × Reading) → Option Fault
  | [] => none
  | (key, value) :: rest => passingOf key <|> passing value <|> passingMembers rest

end

mutual

/-- Whoever passes over a value without faults meets none. -/
theorem passing_ofJson (value : Json) : passing (ofJson value) = none := by
  cases value with
  | array items => rw [ofJson, passing, passingItems_ofItems]; rfl
  | object members => rw [ofJson, passing, passingMembers_ofMembers]; rfl
  | _ => rfl

private theorem passingItems_ofItems (items : List Json) : passingItems (ofItems items) = none := by
  cases items with
  | nil => rfl
  | cons item rest => rw [ofItems, passingItems, passing_ofJson, passingItems_ofItems]; rfl

private theorem passingMembers_ofMembers (members : List (String × Json)) :
    passingMembers (ofMembers members) = none := by
  cases members with
  | nil => rfl
  | cons member rest =>
    rw [ofMembers, passingMembers, passing_ofJson, passingMembers_ofMembers]
    rfl

end

mutual

/-- The value that was read, if it is whole and its containers nest less than `depth` deep. -/
def toJson? (depth : Nat) : Reading → Option Json
  | null => some .null
  | bool b => some (.bool b)
  | number (.ok n) => some (.number n)
  | string (.ok text) => some (.string text)
  | array items none =>
    if depth ≤ 1 then none else (itemsToJson? (depth - 1) items).map .array
  | object members none =>
    if depth ≤ 1 then none else (membersToJson? (depth - 1) members).map .ofMembers
  | _ => none

private def itemsToJson? (depth : Nat) : List Reading → Option (List Json)
  | [] => some []
  | item :: rest => do
    let value ← toJson? depth item
    let values ← itemsToJson? depth rest
    return value :: values

private def membersToJson? (depth : Nat) :
    List (Except Broken String × Reading) → Option (List (String × Json))
  | [] => some []
  | (.ok key, item) :: rest => do
    let value ← toJson? depth item
    let values ← membersToJson? depth rest
    return (key, value) :: values
  | (.error _, _) :: _ => none

end

end Reading

/-- The depth at which containers nest too deep. -/
def Document.depthLimit : Nat := 128

def Document.toJson? (document : Document) : Option Json :=
  if document.trailing then none else document.value.toJson? depthLimit

end MacDispatch
