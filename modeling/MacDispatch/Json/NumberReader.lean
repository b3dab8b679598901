import MacDispatch.Decimal.Bounds
import MacDispatch.Json.Reading

/-! # Reading numbers

A number is a sign, whole digits, a fraction and an exponent. Without the last two it is an
integer as long as it fits 64 bits; any other becomes a double by scaling its significant
digits, of which as many count as fit 64 bits. -/

namespace MacDispatch.Number

structure Parts where
  negative : Bool
  whole : List Nat
  fraction : Option (List Nat)
  exponent : Option (Bool × List Nat)

/-- Appends digits to a significand as long as it fits 64 bits; also how many were appended. -/
private def gather : Nat → List Nat → Nat × Nat
  | significand, [] => (significand, 0)
  | significand, d :: rest =>
    if significand * 10 + d > greatestUnsigned then (significand, 0)
    else
      let (total, count) := gather (significand * 10 + d) rest
      (total, count + 1)

/-- `x * 10 ^ exponent`, rounded after each step of at most 308 powers of ten; nothing when it
exceeds every double. -/
private def scale (x : Binary64) (exponent : Int) : Option Binary64 :=
  if exponent > 308 then if x.isZero then some x else none
  else if exponent ≥ 0 then
    let y := x.mul (.ofDecimal false 1 exponent)
    if y.isInfinite then none else some y
  else if exponent ≥ -308 then some (x.div (.ofDecimal false 1 (-exponent)))
  else if x.isZero then some x
  else scale (x.div (.ofDecimal false 1 308)) (exponent + 308)
termination_by (-exponent).toNat

/-- The double with the given significand and decimal exponent, or nothing beyond the range. -/
private def double (negative : Bool) (significand : Nat) (exponent : Int) : Option Number :=
  (scale (.ofRatio false significand 1) exponent).map fun x =>
    real (if negative then x.neg else x)

private def valueOf (digits : List Nat) : Nat :=
  digits.foldl (fun n d => 10 * n + d) 0

def ofParts (parts : Parts) : Option Number :=
  let (significand, kept) := gather 0 parts.whole
  let dropped := parts.whole.length - kept
  match parts.fraction, parts.exponent with
  | none, none =>
    if dropped > 0 then double parts.negative significand dropped
    else if !parts.negative then some (integer significand)
    else
      let n : Int := -significand
      if n != 0 && fitsInteger n then some (integer n) else double true significand 0
  | fraction, exponent =>
    let (significand, places) := gather significand (fraction.getD [])
    let exponent₀ : Int := (dropped : Int) - places
    match exponent with
    | none => double parts.negative significand exponent₀
    | some (down, digits) =>
      let power : Int := valueOf digits
      if power > 2147483647 then
        if significand != 0 && !down then none
        else some (real (.finite parts.negative 0 (-1074)))
      else double parts.negative significand (if down then exponent₀ - power else exponent₀ + power)

/-- The digits at the front of a text, and the rest. -/
private def digits (s : List Char) : List Nat × List Char :=
  ((s.takeWhile Char.isDigit).map fun c => c.toNat - '0'.toNat, s.dropWhile Char.isDigit)

private theorem length_le_of_digits {s : List Char} {ds : List Nat} {rest : List Char}
    (h : digits s = (ds, rest)) : rest.length ≤ s.length := by
  have : (s.dropWhile Char.isDigit).length ≤ s.length := (List.dropWhile_sublist _).length_le
  rw [digits, Prod.mk.injEq] at h
  rwa [h.2] at this

/-- A missing digit: whoever needs the value sees the end of the text for what it is. -/
private def missing (rest : List Char) : Broken :=
  ⟨if rest.isEmpty then .truncated else .malformed, some .malformed⟩

/-- The number with the given parts, which ends before `rest`. -/
private def finish (parts : Parts) (rest : List Char) : Except Broken Number × List Char :=
  match ofParts parts with
  | some n => (.ok n, rest)
  | none => (.error ⟨.malformed, none⟩, rest)

/-- The sign of an exponent: whether it is a minus, and the rest. -/
private def exponentSign : List Char → Bool × List Char
  | '+' :: rest => (false, rest)
  | '-' :: rest => (true, rest)
  | rest => (false, rest)

/-- Reads the end of a number from its exponent on. -/
private def scanExponent (negative : Bool) (whole : List Nat) (fraction : Option (List Nat))
    (s : List Char) : Except Broken Number × List Char :=
  if s.head? == some 'e' || s.head? == some 'E' then
    let (down, r) := exponentSign s.tail
    match digits r with
    | ([], rest) => (.error (missing rest), rest)
    | (ds, rest) => finish ⟨negative, whole, fraction, some (down, ds)⟩ rest
  else finish ⟨negative, whole, fraction, none⟩ s

/-- Reads the number at the front of a text, which is a minus or a digit. -/
def scan (s : List Char) : Except Broken Number × List Char :=
  let negative := s.head? == some '-'
  match digits (if negative then s.tail else s) with
  | ([], rest) => (.error (missing rest), rest)
  | (0 :: _ :: _, rest) => (.error ⟨.malformed, some .malformed⟩, rest)
  | (whole, rest) =>
    if rest.head? == some '.' then
      match digits rest.tail with
      | ([], rest) => (.error (missing rest), rest)
      | (fraction, rest) => scanExponent negative whole (some fraction) rest
    else scanExponent negative whole none rest

private theorem snd_finish (parts : Parts) (rest : List Char) :
    (finish parts rest).2 = rest := by
  unfold finish
  split <;> rfl

private theorem length_exponentSign (s : List Char) : (exponentSign s).2.length ≤ s.length := by
  unfold exponentSign
  split <;> simp

private theorem length_scanExponent (negative : Bool) (whole : List Nat)
    (fraction : Option (List Nat)) (s : List Char) :
    (scanExponent negative whole fraction s).2.length ≤ s.length := by
  unfold scanExponent
  have hs := length_exponentSign s.tail
  have ht := s.length_tail
  split
  · dsimp only
    split
    · have := length_le_of_digits ‹_›
      dsimp only
      omega
    · have := length_le_of_digits ‹_›
      rw [snd_finish]
      omega
  · simp only [snd_finish, Nat.le_refl]

/-- Reading a number takes characters from the front only. -/
theorem length_scan (s : List Char) : (scan s).2.length ≤ s.length := by
  have start : (if s.head? == some '-' then s.tail else s).length ≤ s.length := by
    split <;> simp
  unfold scan
  dsimp only
  split
  · have := length_le_of_digits ‹_›
    exact Nat.le_trans this start
  · have := length_le_of_digits ‹_›
    exact Nat.le_trans this start
  · rename_i whole rest _ _ h
    have bound := Nat.le_trans (length_le_of_digits h) start
    have ht := rest.length_tail
    split
    · split
      · have := length_le_of_digits ‹_›
        dsimp only
        omega
      · rename_i fraction rest' _ h'
        have := length_le_of_digits h'
        have := length_scanExponent (s.head? == some '-') whole (some fraction) rest'
        omega
    · exact Nat.le_trans (length_scanExponent _ _ _ _) bound

end MacDispatch.Number
