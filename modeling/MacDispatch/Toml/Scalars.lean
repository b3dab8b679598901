import MacDispatch.Decimal.Bounds
import MacDispatch.Toml.Strings

/-! # TOML scalars

Truth values, numbers, dates and times: everything that is written without quotes or brackets.
Such a scalar is taken from the text as one word and then told by its form. -/

namespace MacDispatch.Toml

/-- Digits, between which single underscores may stand. -/
private def underscored (isDigit : Char → Bool) : List Char → Option (List Char)
  | [] => none
  | c :: '_' :: rest => if isDigit c then (underscored isDigit rest).map (c :: ·) else none
  | [c] => if isDigit c then some [c] else none
  | c :: rest => if isDigit c then (underscored isDigit rest).map (c :: ·) else none

private def ofDigits (base : Nat) (digits : List Char) : Nat :=
  digits.foldl (fun n c => base * n + (hexValue? c).getD 0) 0

private def signOf : List Char → Bool × List Char
  | '-' :: rest => (true, rest)
  | '+' :: rest => (false, rest)
  | s => (false, s)

/-- Decimal digits that do not begin with a superfluous zero. -/
private def wholeDigits (s : List Char) : Option (List Char) := do
  let digits ← underscored Char.isDigit s
  if digits.length > 1 && digits.head? == some '0' then none else some digits

private def bounded (n : Int) : Option Toml :=
  if fitsInteger n then some (.integer n) else none

private def integer? (s : List Char) : Option Toml :=
  let based (base : Nat) (isDigit : Char → Bool) (digits : List Char) : Option Toml := do
    bounded (ofDigits base (← underscored isDigit digits))
  match s with
  | '0' :: 'x' :: rest => based 16 (fun c => (hexValue? c).isSome) rest
  | '0' :: 'o' :: rest => based 8 (fun c => '0' ≤ c && c ≤ '7') rest
  | '0' :: 'b' :: rest => based 2 (fun c => c == '0' || c == '1') rest
  | s => do
    let (negative, digits) := signOf s
    let n := ofDigits 10 (← wholeDigits digits)
    bounded (if negative then -(n : Int) else n)

private def real? (s : List Char) : Option Toml := do
  let (negative, rest) := signOf s
  if rest == "inf".toList then return .real (.infinite negative)
  if rest == "nan".toList then return .real .nan
  let isMark (c : Char) : Bool := c == 'e' || c == 'E'
  if !rest.any fun c => c == '.' || isMark c then none
  let mantissa := rest.takeWhile fun c => !isMark c
  let whole ← wholeDigits (mantissa.takeWhile (· != '.'))
  let fraction ←
    match mantissa.dropWhile (· != '.') with
    | [] => some []
    | _ :: digits => underscored Char.isDigit digits
  let exponent : Int ←
    match rest.dropWhile fun c => !isMark c with
    | [] => some 0
    | _ :: power => do
      let (down, digits) := signOf power
      let n := ofDigits 10 (← underscored Char.isDigit digits)
      some (if down then -(n : Int) else n)
  let x := Binary64.ofDecimal negative (ofDigits 10 (whole ++ fraction))
    (exponent - fraction.length)
  if x.isInfinite then none else some (.real x)

/-! ## Dates and times -/

/-- The number written by exactly `count` digits at the front of a text. -/
private def fixedDigits (count : Nat) (s : List Char) : Option (Nat × List Char) :=
  let digits := s.take count
  if digits.length == count && digits.all Char.isDigit then
    some (ofDigits 10 digits, s.drop count)
  else none

private def isLeap (year : Nat) : Bool :=
  year % 4 == 0 && (year % 100 != 0 || year % 400 == 0)

private def daysOf (year month : Nat) : Nat :=
  if month == 2 then (if isLeap year then 29 else 28)
  else if month == 4 || month == 6 || month == 9 || month == 11 then 30
  else 31

private def padded (width n : Nat) : String :=
  let digits := Nat.toDigits 10 n
  String.ofList (List.replicate (width - digits.length) '0' ++ digits)

private def literal (c : Char) : List Char → Option (List Char)
  | d :: rest => if c == d then some rest else none
  | [] => none

private def date (s : List Char) : Option (String × List Char) := do
  let (year, s) ← fixedDigits 4 s
  let (month, s) ← fixedDigits 2 (← literal '-' s)
  let (day, s) ← fixedDigits 2 (← literal '-' s)
  if 1 ≤ month && month ≤ 12 && 1 ≤ day && day ≤ daysOf year month then
    some (padded 4 year ++ "-" ++ padded 2 month ++ "-" ++ padded 2 day, s)
  else none

/-- A fraction of a second: its digits count up to the ninth, and final zeros do not show. -/
private def fractionText (digits : List Char) : String :=
  let kept := ((digits.take 9).reverse.dropWhile (· == '0')).reverse
  "." ++ String.ofList (if kept.isEmpty then ['0'] else kept)

private def seconds (s : List Char) : Option (String × List Char) :=
  match s with
  | ':' :: rest => do
    let (second, rest) ← fixedDigits 2 rest
    if second > 60 then none
    match rest with
    | '.' :: rest =>
      let digits := rest.takeWhile Char.isDigit
      if digits.isEmpty then none
      else
        some (":" ++ padded 2 second ++ fractionText digits, rest.dropWhile Char.isDigit)
    | rest => some (":" ++ padded 2 second, rest)
  | s => some ("", s)

private def time (s : List Char) : Option (String × List Char) := do
  let (hour, s) ← fixedDigits 2 s
  let (minute, s) ← fixedDigits 2 (← literal ':' s)
  if hour > 23 || minute > 59 then none
  let (second, s) ← seconds s
  some (padded 2 hour ++ ":" ++ padded 2 minute ++ second, s)

private def offset (s : List Char) : Option (String × List Char) :=
  let numeric (minus : Bool) (s : List Char) : Option (String × List Char) := do
    let (hour, s) ← fixedDigits 2 s
    let (minute, s) ← fixedDigits 2 (← literal ':' s)
    if hour > 23 || minute > 59 then none
    let sign := if minus && (hour != 0 || minute != 0) then "-" else "+"
    some (sign ++ padded 2 hour ++ ":" ++ padded 2 minute, s)
  match s with
  | 'Z' :: rest => some ("Z", rest)
  | 'z' :: rest => some ("Z", rest)
  | '+' :: rest => numeric false rest
  | '-' :: rest => numeric true rest
  | s => some ("", s)

/-- A date, a time, or both, of which the latter may have an offset. -/
private def datetime? (s : List Char) : Option Toml :=
  let whole : Option (String × List Char) → Option Toml
    | some (text, []) => some (.datetime text)
    | _ => none
  match date s with
  | none => whole (time s)
  | some (day, []) => some (.datetime day)
  | some (day, mark :: rest) =>
    if mark == 'T' || mark == 't' || mark == ' ' then
      whole <| do
        let (clock, rest) ← time rest
        let (shift, rest) ← offset rest
        some (day ++ "T" ++ clock ++ shift, rest)
    else none

/-- A character of a scalar without quotes. -/
private def isWordChar (c : Char) : Bool :=
  c.isAlphanum || c == '+' || c == '-' || c == '_' || c == '.' || c == ':'

/-- Whether a word is a date behind which a time may stand after a single space. -/
private def awaitsTime (word rest : List Char) : Bool :=
  match date word, rest with
  | some (_, []), ' ' :: d :: _ => d.isDigit
  | _, _ => false

def scalar (s : List Char) : Option (Toml × List Char) :=
  let word := s.takeWhile isWordChar
  let rest := s.dropWhile isWordChar
  let (word, rest) :=
    if awaitsTime word rest then
      (word ++ ' ' :: (rest.drop 1).takeWhile isWordChar, (rest.drop 1).dropWhile isWordChar)
    else (word, rest)
  let value : Option Toml :=
    if word == "true".toList then some (.bool true)
    else if word == "false".toList then some (.bool false)
    else integer? word <|> real? word <|> datetime? word
  value.map fun v => (v, rest)

end MacDispatch.Toml
