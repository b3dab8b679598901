import MacDispatch.Json.Reading

/-! # Reading strings

A string ends at its closing quote. An escape may stand for half of a character beyond
`U+FFFF`; without its other half the string has no value, yet can still be passed over. -/

namespace MacDispatch.Json

/-- What remains of a text once something was read from its front. -/
abbrev Rest (s : List Char) := { r : List Char // r.length ≤ s.length }

private def hexDigit? (c : Char) : Option Nat :=
  if c.isDigit then some (c.toNat - '0'.toNat)
  else if 'a' ≤ c && c ≤ 'f' then some (c.toNat - 'a'.toNat + 10)
  else if 'A' ≤ c && c ≤ 'F' then some (c.toNat - 'A'.toNat + 10)
  else none

/-- The four hexadecimal digits of an escape; too few bytes left are a text that ends early. -/
private def unit (s : List Char) : Except Fault (Nat × Rest s) :=
  if (s.take 4).foldr (fun c n => c.utf8Size + n) 0 < 4 then .error .truncated
  else
    match s with
    | a :: b :: c :: d :: rest =>
      match [a, b, c, d].mapM hexDigit? with
      | some digits =>
        .ok (digits.foldl (fun n d => 16 * n + d) 0, ⟨rest, by simp only [List.length_cons]; omega⟩)
      | none => .error .malformed
    | _ => .error .malformed

private inductive Escaped (s : List Char)
  | char (c : Char) (rest : Rest s)
  /-- Half a character; `fault` is what a reader of the value meets. -/
  | half (fault : Fault) (rest : Rest s)
  | stop (fault : Fault)

/-- The second half of a character, written directly behind the first. -/
private def secondHalf (s : List Char) : Except Fault (Nat × Rest s) :=
  match s with
  | [] | ['\\'] => .error .truncated
  | '\\' :: 'u' :: r =>
    match unit r with
    | .ok (n, rest) =>
      if 0xDC00 ≤ n && n ≤ 0xDFFF then
        .ok (n, ⟨rest.1, by have := rest.2; simp only [List.length_cons]; omega⟩)
      else .error .malformed
    | .error fault => .error fault
  | _ => .error .malformed

private def short? : Char → Option Char
  | '"' => some '"'
  | '\\' => some '\\'
  | '/' => some '/'
  | 'b' => some '\x08'
  | 'f' => some '\x0c'
  | 'n' => some '\n'
  | 'r' => some '\r'
  | 't' => some '\t'
  | _ => none

private def escaped (s : List Char) : Escaped s :=
  match s with
  | [] => .stop .truncated
  | 'u' :: r =>
    match unit r with
    | .error fault => .stop fault
    | .ok (n, rest) =>
      have bound := rest.2
      let after : Rest ('u' :: r) := ⟨rest.1, by simp only [List.length_cons]; omega⟩
      if 0xDC00 ≤ n && n ≤ 0xDFFF then .half .malformed after
      else if 0xD800 ≤ n && n ≤ 0xDBFF then
        match secondHalf rest.1 with
        | .error fault => .half fault after
        | .ok (m, rest') =>
          .char (Char.ofNat (0x10000 + (n - 0xD800) * 0x400 + (m - 0xDC00)))
            ⟨rest'.1, by have := rest'.2; simp only [List.length_cons]; omega⟩
      else .char (Char.ofNat n) after
  | c :: r =>
    match short? c with
    | some d => .char d ⟨r, by simp⟩
    | none => .stop .malformed

/-- Reads a string from behind its opening quote. `kept` holds its characters so far, the last
one first, and `fault` what a reader of the value has met. -/
def scanString (kept : List Char) (fault : Option Fault) (s : List Char) :
    Except Broken String × Rest s :=
  match s with
  | [] => (.error ⟨fault.getD .truncated, some .truncated⟩, ⟨[], Nat.le_refl _⟩)
  | c :: r =>
    let stop (f : Fault) : Except Broken String × Rest (c :: r) :=
      (.error ⟨fault.getD f, some f⟩, ⟨r, by simp⟩)
    if c == '"' then
      match fault with
      | none => (.ok (String.ofList kept.reverse), ⟨r, by simp⟩)
      | some f => (.error ⟨f, none⟩, ⟨r, by simp⟩)
    else if c == '\\' then
      match escaped r with
      | .char d rest =>
        have bound := rest.2
        let (text, rest') := scanString (d :: kept) fault rest.1
        (text, ⟨rest'.1, by have := rest'.2; simp only [List.length_cons]; omega⟩)
      | .half f rest =>
        have bound := rest.2
        let (text, rest') := scanString kept (fault <|> some f) rest.1
        (text, ⟨rest'.1, by have := rest'.2; simp only [List.length_cons]; omega⟩)
      | .stop f => stop f
    else if c.toNat < 0x20 then stop .malformed
    else
      let (text, rest') := scanString (c :: kept) fault r
      (text, ⟨rest'.1, by have := rest'.2; simp only [List.length_cons]; omega⟩)
termination_by s.length
decreasing_by all_goals (simp only [List.length_cons]; omega)

end MacDispatch.Json
