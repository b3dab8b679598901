import MacDispatch.Text.Quoted
import MacDispatch.Vocabulary

/-! # Mismatches

What is said when a value is well formed but not of the kind that was asked for. -/

namespace MacDispatch

/-- What was found. The texts of an absent value and of a double are chosen by the format that
was read. -/
inductive Found
  | nothing (text : String)
  | bool (value : Bool)
  | integer (value : Int)
  | real (text : String)
  | string (text : String)
  | sequence
  | map
deriving DecidableEq, Repr

def Found.text : Found → String
  | nothing text => text
  | bool b => "boolean `" ++ (if b then "true" else "false") ++ "`"
  | integer n => "integer `" ++ toString n ++ "`"
  | real text => "floating point `" ++ text ++ "`"
  | string text => "string " ++ Text.quoted text
  | sequence => "sequence"
  | map => "map"

inductive Mismatch
  | kind (found : Found) (expected : String)
  | value (found : Found) (expected : String)
  | length (count : Nat) (expected : String)
  | variant (name : String) (known : List String)
  | missing (field : String)
  | duplicate (field : String)
deriving DecidableEq, Repr

/-- A name set off from the words around it. -/
private def marked (name : String) : String := "`" ++ name ++ "`"

private def alternatives : List String → String
  | [] => "there are no variants"
  | [a] => "expected " ++ marked a
  | [a, b] => "expected " ++ marked a ++ " or " ++ marked b
  | names => "expected one of " ++ ", ".intercalate (names.map marked)

def Mismatch.message : Mismatch → String
  | kind found expected => "invalid type: " ++ found.text ++ ", expected " ++ expected
  | value found expected => "invalid value: " ++ found.text ++ ", expected " ++ expected
  | length count expected => "invalid length " ++ toString count ++ ", expected " ++ expected
  | variant name known => "unknown variant " ++ marked name ++ ", " ++ alternatives known
  | missing field => "missing field " ++ marked field
  | duplicate field => "duplicate field " ++ marked field

end MacDispatch
