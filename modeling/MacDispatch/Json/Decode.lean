import MacDispatch.Decimal.Bounds
import MacDispatch.Failure
import MacDispatch.Json.Mismatch
import MacDispatch.Json.Reading

/-! # Decoding

From readings to typed values. A decoder takes a reading of a value that is known whole, or of
a text that is still being read; the two differ where a text would have to be read further. -/

namespace MacDispatch

/-- How a value comes: known whole, or read from a text piece by piece. -/
inductive Intake
  | whole
  | streamed
deriving DecidableEq, Repr

inductive Refusal
  | fault (fault : Fault)
  | mismatch (mismatch : Mismatch)
deriving DecidableEq, Repr

abbrev Decoder (α : Type) := Intake → Reading → Except Refusal α

/-- What a reading shows to someone who wanted something else. -/
def Reading.found : Reading → Except Fault Found
  | null => .ok (.nothing "null")
  | bool b => .ok (.bool b)
  | number (.ok (.integer n)) => .ok (.integer n)
  | number (.ok (.real x)) => .ok (.real x.jsonText)
  | number (.error broken) => .error broken.fault
  | string (.ok text) => .ok (.string text)
  | string (.error broken) => .error broken.fault
  | array _ _ => .ok .sequence
  | object _ _ => .ok .map
  | brokenNull fault => .error fault
  | faulty fault => .error fault
  | absent => .error .truncated

/-- Refuses a reading of another kind than the one expected. -/
def Reading.refuse {α : Type} (reading : Reading) (expected : String) : Except Refusal α :=
  match reading.found with
  | .ok found => .error (.mismatch (.kind found expected))
  | .error fault => .error (.fault fault)

namespace Decoder

def bool : Decoder Bool
  | _, .bool b => .ok b
  | _, reading => reading.refuse "a boolean"

def string : Decoder String
  | _, .string (.ok text) => .ok text
  | _, reading => reading.refuse "a string"

def word32 : Decoder UInt32
  | _, .number (.ok (.integer n)) =>
    if 0 ≤ n ∧ n ≤ greatestWord then .ok (UInt32.ofNat n.toNat)
    else .error (.mismatch (.value (.integer n) "u32"))
  | _, reading => reading.refuse "u32"

/-- A value that null leaves out. -/
def option {α : Type} (decode : Decoder α) : Decoder (Option α)
  | _, .null => .ok none
  | _, .brokenNull fault => .error (.fault fault)
  | intake, reading => (decode intake reading).map some

def list {α : Type} (decode : Decoder α) : Decoder (List α)
  | intake, .array items fault => do
    let values ← items.mapM (decode intake)
    match fault with
    | none => .ok values
    | some fault => .error (.fault fault)
  | _, reading => reading.refuse "a sequence"

section Variant

variable (α : Type) [Vocabulary α]

private def named (name : String) : Except Refusal α :=
  match Vocabulary.ofName? name with
  | some a => .ok a
  | none => .error (.mismatch (.variant name ((Vocabulary.all : List α).map Vocabulary.name)))

/-- Beside the name of a variant stands null. -/
private def beside (value : Reading) : Except Refusal Unit :=
  match value with
  | .null => .ok ()
  | reading => reading.refuse "unit"

/-- A named value, written as its name or as an object that has null under its name. -/
def variant : Decoder α
  | _, .string (.ok name) => named α name
  | .whole, .object [(.ok name, value)] _ => do
    let a ← named α name
    beside value
    return a
  | .whole, .object _ _ => .error (.mismatch (.value .map "map with a single key"))
  | .whole, reading => reading.refuse "string or map"
  | .streamed, .string (.error broken) => .error (.fault broken.fault)
  | .streamed, .object ((.ok name, value) :: more) fault => do
    let a ← named α name
    beside value
    if !more.isEmpty then .error (.fault .malformed)
    match fault with
    | none => .ok a
    | some fault => .error (.fault fault)
  | .streamed, .object ((.error broken, _) :: _) _ => .error (.fault broken.fault)
  | .streamed, .object [] fault => .error (.fault (fault.getD .malformed))
  | .streamed, .absent => .error (.fault .truncated)
  | .streamed, _ => .error (.fault .malformed)

variable {α}

/-- A text is read as the value whose name it is, however it comes. -/
theorem variant_string_eq_ok_iff {intake : Intake} {text : String} {a : α} :
    variant α intake (.string (.ok text)) = .ok a ↔ text = Vocabulary.name a := by
  rw [← Vocabulary.ofName?_eq_some_iff, variant, named]
  split <;> simp_all

end Variant

/-- One field of a record, which is gathered in values of type `P`. -/
structure Field (P : Type) where
  name : String
  given : P → Bool
  keep : Intake → Reading → P → Except Refusal P

/-- The field kept at the place that `get` and `set` give. -/
def Field.of {P β : Type} (name : String) (decode : Decoder β) (get : P → Option β)
    (set : β → P → P) : Field P where
  name := name
  given p := (get p).isSome
  keep intake reading p := (decode intake reading).map fun b => set b p

theorem Field.keep_of_eq_ok_iff {P β : Type} {name : String} {decode : Decoder β}
    {get : P → Option β} {set : β → P → P} {intake : Intake} {reading : Reading} {p q : P} :
    (Field.of name decode get set).keep intake reading p = .ok q ↔
      ∃ b, decode intake reading = .ok b ∧ q = set b p := by
  rw [Field.of]
  cases hread : decode intake reading with
  | error refusal => simp [hread, Except.map]
  | ok b => simp [hread, Except.map, eq_comm]

/-- A record with named fields. `finish` gets the mismatch to report for a field that is needed
and was not given, by its position and name. -/
structure Record (P α : Type) where
  name : String
  fields : List (Field P)
  empty : P
  finish : (Nat → String → Mismatch) → P → Except Mismatch α

namespace Record

variable {P α : Type}

def field? (record : Record P α) (key : String) : Option (Field P) :=
  record.fields.find? (·.name == key)

/-- Keeps the members of an object that are fields, each at most once, and passes over others. -/
def keepMembers (record : Record P α) (intake : Intake) :
    List (Except Broken String × Reading) → P → Except Refusal P
  | [], p => .ok p
  | (.error broken, _) :: _, _ => .error (.fault broken.fault)
  | (.ok key, value) :: rest, p =>
    match record.field? key with
    | some field =>
      if field.given p then .error (.mismatch (.duplicate key))
      else do record.keepMembers intake rest (← field.keep intake value p)
    | none =>
      match value.passing with
      | some fault => .error (.fault fault)
      | none => record.keepMembers intake rest p

/-- Keeps the items of an array as the fields in their order; also the items left over. -/
def keepItems (intake : Intake) :
    List (Field P) → List Reading → P → Except Refusal (P × List Reading)
  | field :: fields, item :: items, p => do
    keepItems intake fields items (← field.keep intake item p)
  | _, items, p => .ok (p, items)

private def finished (record : Record P α) (missing : Nat → String → Mismatch) (p : P) :
    Except Refusal α :=
  match record.finish missing p with
  | .ok a => .ok a
  | .error mismatch => .error (.mismatch mismatch)

private def shape (record : Record P α) : String :=
  let n := record.fields.length
  "struct " ++ record.name ++ " with " ++ toString n ++ (if n == 1 then " element" else " elements")

/-- Reads a record from an object, or from an array of its fields in order. -/
def decode (record : Record P α) : Decoder α
  | intake, .object members fault => do
    let p ← record.keepMembers intake members record.empty
    match fault with
    | some fault => .error (.fault fault)
    | none => record.finished (fun _ name => .missing name) p
  | intake, .array items fault => do
    let (p, left) ← keepItems intake record.fields items record.empty
    if !left.isEmpty then
      match intake with
      | .whole => .error (.mismatch (.length items.length "fewer elements in array"))
      | .streamed => .error (.fault .malformed)
    else
      match fault with
      | some fault => .error (.fault fault)
      | none => record.finished (fun position _ => .length position record.shape) p
  | _, reading => reading.refuse ("struct " ++ record.name)

variable {record : Record P α} {intake : Intake}

/-- A member is either a field that was not given before, or a member to be passed over. -/
theorem keepMembers_cons_eq_ok_iff {key : String} {value : Reading}
    {rest : List (Except Broken String × Reading)} {p q : P} :
    record.keepMembers intake ((.ok key, value) :: rest) p = .ok q ↔
      (∃ field p', record.field? key = some field ∧ field.given p = false ∧
        field.keep intake value p = .ok p' ∧ record.keepMembers intake rest p' = .ok q) ∨
      (record.field? key = none ∧ value.passing = none ∧
        record.keepMembers intake rest p = .ok q) := by
  rw [keepMembers]
  cases record.field? key with
  | none => cases value.passing <;> simp
  | some field =>
    by_cases hgiven : field.given p = true
    · simp [hgiven]
    · cases hkeep : field.keep intake value p <;> simp [hgiven, hkeep, bind, Except.bind]

/-- An object without faults is read if its members are kept and make up a value. -/
theorem decode_object {members : List (Except Broken String × Reading)} {p : P} {a : α}
    (hkeep : record.keepMembers intake members record.empty = .ok p)
    (hfinish : record.finish (fun _ name => .missing name) p = .ok a) :
    record.decode intake (.object members none) = .ok a := by
  rw [decode, hkeep]
  simp only [bind, Except.bind, finished, hfinish]

end Record

def value {α : Type} (decode : Decoder α) (json : Json) : Except Refusal α :=
  decode .whole (.ofJson json)

/-- Reads a text, behind whose value nothing may stand. -/
def document {α : Type} (decode : Decoder α) (document : Document) : Except Refusal α := do
  let a ← decode .streamed document.value
  if document.trailing then .error (.fault .malformed)
  return a

end Decoder

/-- A value that had to be given at a position under a name. -/
def needed {α : Type} (missing : Nat → String → Mismatch) (position : Nat) (name : String) :
    Option α → Except Mismatch α
  | some a => .ok a
  | none => .error (missing position name)

end MacDispatch
