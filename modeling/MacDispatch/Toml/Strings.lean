import MacDispatch.Toml.Basic

/-! # TOML strings

Strings in double quotes have escapes, those in single quotes have none. Between three quotes a
string may hold line breaks; one directly behind the opening quotes is dropped. What is read from
the front of a text comes with the rest, and nothing comes of a faulty text. -/

namespace MacDispatch.Toml

def isControl (c : Char) : Bool := c != '\t' && (c.toNat < 0x20 || c.toNat == 0x7f)

def hexValue? (c : Char) : Option Nat :=
  if '0' ≤ c && c ≤ '9' then some (c.toNat - '0'.toNat)
  else if 'a' ≤ c && c ≤ 'f' then some (c.toNat - 'a'.toNat + 10)
  else if 'A' ≤ c && c ≤ 'F' then some (c.toNat - 'A'.toNat + 10)
  else none

private def shortEscape? : Char → Option Char
  | 'b' => some '\x08'
  | 't' => some '\t'
  | 'n' => some '\n'
  | 'f' => some '\x0c'
  | 'r' => some '\r'
  | 'e' => some '\x1b'
  | '"' => some '"'
  | '\\' => some '\\'
  | _ => none

/-- The number of hexadecimal digits of an escape that is written by code point. -/
private def digitCount? : Char → Option Nat
  | 'x' => some 2
  | 'u' => some 4
  | 'U' => some 8
  | _ => none

private def charOf? (n : Nat) : Option Char :=
  if n < 0xD800 || (0xDFFF < n && n < 0x110000) then some (Char.ofNat n) else none

/-- Where a reader of a quoted text stands. -/
private inductive Place
  | plain
  /-- Behind a backslash. -/
  | escape
  /-- Within an escape of which so many digits are to come. -/
  | digits (left value : Nat)
  /-- Behind a backslash and blanks: the line has to end here. -/
  | lineEnd
  /-- Behind a line that ended with a backslash: blanks and line breaks are dropped. -/
  | margin
  /-- Behind one or more quotes in a text that ends with three of them. -/
  | quotes (count : Nat)

private def digitStep (left value : Nat) (c : Char) : Option (Place × List Char) := do
  let d ← hexValue? c
  let value := 16 * value + d
  if left ≤ 1 then
    let char ← charOf? value
    return (.plain, [char])
  return (.digits (left - 1) value, [])

private def escapeStep (c : Char) : Option (Place × List Char) :=
  match shortEscape? c, digitCount? c with
  | some d, _ => some (.plain, [d])
  | none, some n => some (.digits n 0, [])
  | none, none => none

/-- The text up to the quote that closes a line of text with escapes. -/
private def basicText (place : Place) (kept : List Char) :
    List Char → Option (String × List Char)
  | [] => none
  | c :: rest =>
    match place with
    | .escape => (escapeStep c).bind fun (place, chars) => basicText place (chars ++ kept) rest
    | .digits left value => (digitStep left value c).bind fun (place, chars) =>
      basicText place (chars ++ kept) rest
    | _ =>
      if c == '"' then some (String.ofList kept.reverse, rest)
      else if c == '\\' then basicText .escape kept rest
      else if isControl c then none
      else basicText .plain (c :: kept) rest

/-- Up to two quotes before the closing three belong to the text. -/
private def closed (quote : Char) (count : Nat) (kept rest : List Char) :
    Option (String × List Char) :=
  some (String.ofList (kept.reverse ++ List.replicate (count - 3) quote), rest)

/-- The text up to three quotes, with escapes and line breaks. -/
private def basicLines (place : Place) (kept : List Char) :
    List Char → Option (String × List Char)
  | [] =>
    match place with
    | .quotes count => if count ≥ 3 then closed '"' count kept [] else none
    | _ => none
  | c :: rest =>
    let breaks := c == '\n' || (c == '\r' && rest.head? == some '\n')
    let blank := c == ' ' || c == '\t'
    let plain (kept : List Char) : Option (String × List Char) :=
      if c == '"' then basicLines (.quotes 1) kept rest
      else if c == '\\' then basicLines .escape kept rest
      else if breaks || !isControl c then basicLines .plain (c :: kept) rest
      else none
    match place with
    | .plain => plain kept
    | .escape =>
      if breaks then basicLines .margin kept rest
      else if blank then basicLines .lineEnd kept rest
      else (escapeStep c).bind fun (place, chars) => basicLines place (chars ++ kept) rest
    | .digits left value => (digitStep left value c).bind fun (place, chars) =>
      basicLines place (chars ++ kept) rest
    | .lineEnd =>
      if breaks then basicLines .margin kept rest
      else if blank then basicLines .lineEnd kept rest
      else none
    | .margin => if breaks || blank then basicLines .margin kept rest else plain kept
    | .quotes count =>
      if count ≥ 5 then closed '"' count kept (c :: rest)
      else if c == '"' then basicLines (.quotes (count + 1)) kept rest
      else if count ≥ 3 then closed '"' count kept (c :: rest)
      else plain (List.replicate count '"' ++ kept)

/-- The text up to the quote that closes a line of text without escapes. -/
private def literalText (kept : List Char) : List Char → Option (String × List Char)
  | [] => none
  | c :: rest =>
    if c == '\'' then some (String.ofList kept.reverse, rest)
    else if isControl c then none
    else literalText (c :: kept) rest

/-- The text up to three quotes, without escapes; `count` quotes were met just before. -/
private def literalLines (count : Nat) (kept : List Char) :
    List Char → Option (String × List Char)
  | [] => if count ≥ 3 then closed '\'' count kept [] else none
  | c :: rest =>
    if count ≥ 5 then closed '\'' count kept (c :: rest)
    else if c == '\'' then literalLines (count + 1) kept rest
    else if count ≥ 3 then closed '\'' count kept (c :: rest)
    else if c == '\n' || (c == '\r' && rest.head? == some '\n') || !isControl c then
      literalLines 0 (c :: (List.replicate count '\'' ++ kept)) rest
    else none

/-- The text behind a line break at its front. -/
private def dropBreak : List Char → List Char
  | '\n' :: rest => rest
  | '\r' :: '\n' :: rest => rest
  | rest => rest

def lineString : List Char → Option (String × List Char)
  | '"' :: rest => basicText .plain [] rest
  | '\'' :: rest => literalText [] rest
  | _ => none

def anyString : List Char → Option (String × List Char)
  | '"' :: '"' :: '"' :: rest => basicLines .plain [] (dropBreak rest)
  | '\'' :: '\'' :: '\'' :: rest => literalLines 0 [] (dropBreak rest)
  | s => lineString s

end MacDispatch.Toml
