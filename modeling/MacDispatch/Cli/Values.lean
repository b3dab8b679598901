import MacDispatch.Cli.Grammar
import MacDispatch.Decimal.Bounds
import MacDispatch.Failure

/-! # Values on the command line

How the texts of values are read: words of a vocabulary, and counts that fit into 32 bits. -/

namespace MacDispatch.Cli

def anyText : ValueReader String := .ok

/-- One of a few words, which are listed where another one is refused. -/
def choice (α : Type) [Vocabulary α] : ValueReader α := fun text =>
  match Vocabulary.ofName? text with
  | some a => .ok a
  | none => .error .notAmong

def nameOf (α : Type) [Vocabulary α] : ValueReader α := fun text =>
  match Vocabulary.parse α text with
  | .ok a => .ok a
  | .error failure => .error (.refused failure.text)

/-- The number that digits add up to, read from the left and not above a limit. -/
private def digitsUpTo (limit : Nat) (tooFar : String) : Nat → List Char → Except ValueFault Nat
  | n, [] => .ok n
  | n, c :: rest =>
    if !c.isDigit then .error (.refused "invalid digit found in string")
    else
      let n := 10 * n + (c.toNat - '0'.toNat)
      if limit < n then .error (.refused tooFar) else digitsUpTo limit tooFar n rest

/-- A 64-bit integer, with or without a sign. -/
def integer : ValueReader Int := fun text =>
  let digits (limit : Int) (tooFar : String) (s : List Char) : Except ValueFault Nat :=
    if s.isEmpty then .error (.refused "invalid digit found in string")
    else digitsUpTo limit.natAbs tooFar 0 s
  match text.toList with
  | [] => .error (.refused "cannot parse integer from empty string")
  | '-' :: rest =>
    (digits leastInteger "number too small to fit in target type" rest).map fun n => -(n : Int)
  | '+' :: rest =>
    (digits greatestInteger "number too large to fit in target type" rest).map fun n => (n : Int)
  | s => (digits greatestInteger "number too large to fit in target type" s).map fun n => (n : Int)

/-- A count that fits into 32 bits. -/
def count : ValueReader UInt32 := fun text => do
  let n ← integer text
  if n < 0 || (greatestWord : Int) < n then
    .error (.refused (toString n ++ " is not in 0..=" ++ toString greatestWord))
  else .ok n.toNat.toUInt32

end MacDispatch.Cli
