import MacDispatch.Decimal.Bounds
import MacDispatch.Settings.Entry
import MacDispatch.Text.Lowercase

/-! # Settings from the environment

A variable whose name begins with a given front, in whatever case, sets the entry named by the
rest of its name. Its text is taken as a truth value or a number if it reads as one. -/

namespace MacDispatch.Environment

def origin : String := "the environment"

/-- Puts a point in place of each separator. Of a separator that has begun, `left` characters are
still to come. -/
private def pointed (separator : List Char) : (left : Nat) → List Char → List Char
  | _, [] => []
  | left + 1, _ :: rest => pointed separator left rest
  | 0, c :: rest =>
    if !separator.isEmpty && separator.isPrefixOf (c :: rest) then
      '.' :: pointed separator (separator.length - 1) rest
    else c :: pointed separator 0 rest

/-- The key that the name of a variable stands for: what follows the front and a separator, in
small letters. -/
def key? (front separator name : String) : Option String :=
  let small := (Text.lowercase name).toList
  let mark := (Text.lowercase (front ++ separator)).toList
  if mark.isPrefixOf small then
    some (String.ofList (pointed separator.toList 0 (small.drop mark.length)))
  else none

private def signOf : List Char → Bool × List Char
  | '-' :: rest => (true, rest)
  | '+' :: rest => (false, rest)
  | s => (false, s)

private def digitsValue (digits : List Char) : Nat :=
  digits.foldl (fun n c => 10 * n + (c.toNat - '0'.toNat)) 0

def integer? (text : String) : Option Int :=
  let (negative, digits) := signOf text.toList
  let n : Int := digitsValue digits
  let n := if negative then -n else n
  if digits.isEmpty || !digits.all Char.isDigit || !fitsInteger n then none else some n

/-- The exponent at the end of a number, if the end is one. -/
private def exponent? : List Char → Option Int
  | [] => some 0
  | mark :: rest =>
    let (down, digits) := signOf rest
    if (mark == 'e' || mark == 'E') && !digits.isEmpty && digits.all Char.isDigit then
      let n : Int := digitsValue digits
      some (if down then -n else n)
    else none

/-- The double that a text reads as. Digits may be missing on one side of the point. -/
def real? (text : String) : Option Binary64 :=
  let (negative, s) := signOf text.toList
  let word := String.ofList (s.map Char.toLower)
  if word == "inf" || word == "infinity" then some (.infinite negative)
  else if word == "nan" then some .nan
  else
    let whole := s.takeWhile Char.isDigit
    let rest := s.dropWhile Char.isDigit
    let (fraction, rest) :=
      match rest with
      | '.' :: rest => (rest.takeWhile Char.isDigit, rest.dropWhile Char.isDigit)
      | rest => ([], rest)
    if whole.isEmpty && fraction.isEmpty then none
    else
      (exponent? rest).map fun exponent =>
        .ofDecimal negative (digitsValue (whole ++ fraction)) (exponent - fraction.length)

/-- The value that the text of a variable stands for. -/
def scalar (text : String) : Scalar :=
  let small := Text.lowercase text
  if small == "true" then .bool true
  else if small == "false" then .bool false
  else
    match integer? text, real? text with
    | some n, _ => .integer n
    | none, some x => .real x
    | none, none => .text text

def entries (front separator : String) (environment : List (String × String)) : Entries :=
  environment.filterMap fun (name, text) =>
    (key? front separator name).map fun key => (key, .leaf origin (scalar text))

end MacDispatch.Environment
