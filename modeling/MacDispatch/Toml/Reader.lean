import MacDispatch.Toml.Scalars

/-! # Reading TOML

Keys, values and statements. Brackets nest to a fixed depth; within them blanks, line breaks and
comments may stand freely, and a comma may follow the last element. -/

namespace MacDispatch.Toml

/-- The depth to which brackets may nest, and the number of parts that the key of a statement may
have. -/
def depthLimit : Nat := 80

private def isBlank (c : Char) : Bool := c == ' ' || c == '\t'

private def skipBlanks (s : List Char) : List Char := s.dropWhile isBlank

private def skipComment (s : List Char) : Option (List Char) :=
  match s with
  | '#' :: rest =>
    let ends (c : Char) : Bool := c == '\n' || c == '\r'
    if (rest.takeWhile fun c => !ends c).any isControl then none
    else some (rest.dropWhile fun c => !ends c)
  | s => some s

/-- The text behind the end of a line; the end of the text ends a line. -/
private def skipLineEnd (s : List Char) : Option (List Char) := do
  match ← skipComment (skipBlanks s) with
  | [] => some []
  | '\n' :: rest => some rest
  | '\r' :: '\n' :: rest => some rest
  | _ => none

private def skipLines : Nat → List Char → Option (List Char)
  | 0, s => some s
  | fuel + 1, s => do
    let s := skipBlanks s
    match ← skipComment s with
    | '\n' :: rest => skipLines fuel rest
    | '\r' :: '\n' :: rest => skipLines fuel rest
    | rest => some rest

private def skipAll (s : List Char) : Option (List Char) := skipLines (s.length + 1) s

/-! ## Keys -/

private def isKeyChar (c : Char) : Bool := c.isAlphanum || c == '_' || c == '-'

/-- One part of a key. -/
private def simpleKey (s : List Char) : Option (String × List Char) :=
  match s.takeWhile isKeyChar with
  | [] => lineString s
  | word => some (String.ofList word, s.dropWhile isKeyChar)

private def dottedKey : Nat → List Char → Option (List String × List Char)
  | 0, _ => none
  | fuel + 1, s => do
    let (first, rest) ← simpleKey (skipBlanks s)
    match skipBlanks rest with
    | '.' :: rest => do
      let (parts, rest) ← dottedKey fuel rest
      return (first :: parts, rest)
    | rest => return ([first], rest)

private def key (s : List Char) : Option (List String × List Char) :=
  dottedKey (s.length + 1) s

/-- The key of a statement, whose parts are limited in number. -/
private def statementKey (s : List Char) : Option (List String × List Char) := do
  let (path, rest) ← key s
  if path.length ≤ depthLimit then return (path, rest) else none

/-! ## Values -/

/-- Puts a value under a path into an inline table, where nothing may be given twice. -/
private def insertPath (value : Toml) : List String → List (String × Toml) →
    Option (List (String × Toml))
  | [], _ => none
  | [name], members =>
    if (members.lookup name).isSome then none else some (members ++ [(name, value)])
  | name :: path, members =>
    match members.lookup name with
    | none => do return members ++ [(name, .table (← insertPath value path []))]
    | some (.table inner) => do
      let inner ← insertPath value path inner
      return members.map fun (k, v) => if k == name then (k, .table inner) else (k, v)
    | some _ => none

/-- Elements between brackets, of which at most `fuel`, up to the closing bracket. -/
private def elements {α : Type} (close : Char) (element : List Char → Option (α × List Char)) :
    Nat → List Char → Option (List α × List Char)
  | 0, _ => none
  | fuel + 1, s => do
    match ← skipAll s with
    | [] => none
    | c :: rest =>
      if c == close then return ([], rest)
      let (first, rest) ← element (c :: rest)
      match ← skipAll rest with
      | [] => none
      | c :: rest =>
        if c == close then return ([first], rest)
        if c != ',' then none
        let (more, rest) ← elements close element fuel rest
        return (first :: more, rest)

private def keyValue (key : List Char → Option (List String × List Char))
    (value : List Char → Option (Toml × List Char)) (s : List Char) :
    Option ((List String × Toml) × List Char) := do
  let (path, rest) ← key s
  match rest with
  | '=' :: rest => do
    let (v, rest) ← value (skipBlanks rest)
    return ((path, v), rest)
  | _ => none

/-- The table with the given entries; one that comes from a nested table is closed. -/
private def inlineTable (entries : List (List String × Toml)) : Option Toml := do
  let given := entries.map Prod.fst
  let extendsValue := entries.any fun (path, value) =>
    match value with
    | .table _ => given.any fun other => other.length > path.length && path.isPrefixOf other
    | _ => false
  if extendsValue then none
  let members ← entries.foldlM (fun members (path, value) => insertPath value path members) []
  return .table members

private def valueAt : Nat → List Char → Option (Toml × List Char)
  | depth + 1, '[' :: rest => do
    let (items, rest) ← elements ']' (valueAt depth) (rest.length + 1) rest
    return (.array items, rest)
  | depth + 1, '\x7b' :: rest => do
    let (entries, rest) ← elements '\x7d' (keyValue key (valueAt depth)) (rest.length + 1) rest
    return (← inlineTable entries, rest)
  | _, s =>
    if s.head? == some '"' || s.head? == some '\'' then
      (anyString s).map fun (text, rest) => (.string text, rest)
    else scalar s

/-! ## Statements -/

/-- Reads the statement at the front of a text; an empty line has none. -/
private def statement (s : List Char) : Option (Option TomlStatement × List Char) := do
  match skipBlanks s with
  | [] => return (none, [])
  | '[' :: '[' :: rest => do
    let (path, rest) ← statementKey rest
    match rest with
    | ']' :: ']' :: rest => return (some (.element path), rest)
    | _ => none
  | '[' :: rest => do
    let (path, rest) ← statementKey rest
    match rest with
    | ']' :: rest => return (some (.header path), rest)
    | _ => none
  | c :: rest =>
    if c == '#' || c == '\n' || c == '\r' then return (none, c :: rest)
    let ((path, v), rest) ← keyValue statementKey (valueAt depthLimit) (c :: rest)
    return (some (.entry path v), rest)

private def lines : Nat → List Char → Option (List TomlStatement)
  | 0, _ => none
  | _ + 1, [] => some []
  | fuel + 1, s => do
    let (first, rest) ← statement s
    let more ← lines fuel (← skipLineEnd rest)
    return first.toList ++ more

def statements? (text : String) : Option (List TomlStatement) :=
  lines (text.length + 1) text.toList

end MacDispatch.Toml
