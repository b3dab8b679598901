import MacDispatch.Decimal.Binary64

/-! # Shortest decimal text

A number is written with the fewest digits that read back as the same number, and among those
with the digits nearest to it. Where the digits stand positionally and where an exponent is
written is a choice of each text form. -/

namespace MacDispatch.Binary64

/-- The exponent `k` with `10 ^ k ≤ num / den < 10 ^ (k + 1)`, for a positive fraction. -/
private def decimalExponent (num den : Nat) : Int :=
  let k : Int := ((Nat.toDigits 10 num).length : Int) - ((Nat.toDigits 10 den).length : Int)
  let reached := if k ≥ 0 then num ≥ den * Nat.pow 10 k.toNat else num * Nat.pow 10 (-k).toNat ≥ den
  if reached then k else k - 1

/-- The digits of the decimal with `count` digits nearest to `x` that reads back as `x`, with the
exponent of its last digit. -/
private def withDigits (x : Binary64) (num den : Nat) (top : Int) (count : Nat) :
    Option (Nat × Int) :=
  let last := top - (count : Int) + 1
  let (n, d) :=
    if last ≥ 0 then (num, den * Nat.pow 10 last.toNat) else (num * Nat.pow 10 (-last).toNat, den)
  let low := n / d
  let near := roundQuotient n d
  let far := if near == low then low + 1 else low
  let readsBack (digits : Nat) : Bool := ofDecimal x.isNegative digits last == x
  if readsBack near then some (near, last)
  else if readsBack far then some (far, last)
  else none

/-- Drops final zeros, which carry no digit of their own. -/
private def trimZeros : Nat → Nat → Int → Nat × Int
  | 0, digits, last => (digits, last)
  | fuel + 1, digits, last =>
    if digits != 0 && digits % 10 == 0 then trimZeros fuel (digits / 10) (last + 1)
    else (digits, last)

/-- The shortest digits of a finite number, with the exponent of the last one. -/
def shortest (x : Binary64) : Nat × Int :=
  if x.isZero then (0, 0)
  else
    let (num, den) := x.magnitude
    let top := decimalExponent num den
    match (List.range 17).findSome? fun i => withDigits x num den top (i + 1) with
    | some (digits, last) => trimZeros 18 digits last
    | none => (0, 0)

/-- Digits written around a decimal point: `digits * 10 ^ last` without an exponent. -/
def positional (digits : Nat) (last : Int) : String :=
  let text := String.ofList (Nat.toDigits 10 digits)
  if last ≥ 0 then
    if digits == 0 then text else text ++ String.ofList (List.replicate last.toNat '0')
  else
    let places := (-last).toNat
    let padded := List.replicate (places + 1 - text.length) '0' ++ text.toList
    let whole := padded.length - places
    String.ofList (padded.take whole) ++ "." ++ String.ofList (padded.drop whole)

private def sign (x : Binary64) : String := if x.isNegative then "-" else ""

/-- The text of a number in settings: always positional, a whole number without a point. -/
def plain (x : Binary64) : String :=
  match x with
  | nan => "NaN"
  | infinite _ => x.sign ++ "inf"
  | finite .. => let (digits, last) := x.shortest; x.sign ++ positional digits last

/-- The positional text of a number, a whole number marked by `.0`. -/
def pointed (x : Binary64) : String :=
  match x with
  | finite .. => if x.plain.contains '.' then x.plain else x.plain ++ ".0"
  | _ => x.plain

/-- The text of a number in JSON: positional from `10 ^ -5` up to `10 ^ 16`, a whole number
marked by `.0`, and outside that range one digit before the point and a signed exponent. -/
def jsonText (x : Binary64) : String :=
  let (digits, last) := x.shortest
  let text := Nat.toDigits 10 digits
  let top : Int := last + (text.length : Int) - 1
  if -5 ≤ top && top < 16 then x.pointed
  else
    let fraction := if text.length ≤ 1 then "" else "." ++ String.ofList (text.drop 1)
    x.sign ++ String.ofList (text.take 1) ++ fraction ++ "e" ++ (if top < 0 then "-" else "+")
      ++ toString top.natAbs

end MacDispatch.Binary64
