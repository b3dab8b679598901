import MacDispatch.Text.Letters

/-! # Patterns

The value of a field can be asked for by a number, a truth value or a pattern. Here stands which
texts are patterns: repetitions, groups, alternatives, sets in brackets, anchors and escapes.
Letters have no tables behind them, so that classes of letters, words and blanks, and letters in
either case, are known for bytes alone, after `(?-u)`. A brace ends the field that a pattern is
written in; so none can be closed, and an open one repeats nothing. -/

namespace MacDispatch.Pattern

/-- How the text of a pattern is understood. -/
structure Mode where
  /-- Letters stand for both of their cases. -/
  anyCase : Bool := false
  /-- Characters are meant, not bytes. -/
  characters : Bool := true
  /-- Blanks and remarks mean nothing. -/
  spaced : Bool := false
deriving DecidableEq, Repr

namespace Mode

/-- The mode with the switch of the given letter, if there is such a switch. -/
def with? (mode : Mode) (switch : Char) (on : Bool) : Option Mode :=
  match switch with
  | 'i' => some { mode with anyCase := on }
  | 'u' => some { mode with characters := on }
  | 'x' => some { mode with spaced := on }
  | 'm' | 's' | 'U' | 'R' => some mode
  | _ => none

/-- The text behind blanks and remarks, where they mean nothing. -/
def skip (mode : Mode) (s : List Char) : List Char :=
  if mode.spaced then go false s else s
where
  go (inRemark : Bool) : List Char → List Char
    | [] => []
    | c :: rest =>
      if inRemark then go (c != '\n') rest
      else if c == '#' then go true rest
      else if Text.whitespace.contains c then go false rest
      else c :: rest

end Mode

/-! ## Escapes -/

/-- What a backslash or a single character can stand for. -/
inductive Atom
  /-- A character, perhaps given by the number of a byte. -/
  | literal (c : Char) (byte : Bool)
  | anchor
  /-- A place at the edge of a word. -/
  | edge
  /-- Digits, blanks or parts of words, or everything else. -/
  | kind (negated : Bool)
  | property
deriving DecidableEq, Repr

namespace Atom

/-- Whether an atom may stand by itself. -/
def stands (mode : Mode) : Atom → Bool
  | literal c byte =>
    if mode.characters then !mode.anyCase else !(byte && c.toNat > 0x7f)
  | anchor => true
  | edge => !mode.characters
  | kind negated => !mode.characters && !negated
  | property => false

/-- Whether an atom may stand in a set. -/
def standsInSet (mode : Mode) : Atom → Bool
  | literal c _ => if mode.characters then !mode.anyCase else c.toNat ≤ 0x7f
  | kind negated => !mode.characters && !negated
  | _ => false

end Atom

/-- Characters that mean themselves behind a backslash: all of the first hundred and twenty-eight
but letters, digits, and the two angles. -/
private def isPlainEscape (c : Char) : Bool :=
  c.toNat ≤ 0x7f && !c.isAlphanum && c != '<' && c != '>'

private def hexValue? (c : Char) : Option Nat :=
  if c.isDigit then some (c.toNat - '0'.toNat)
  else if 'a' ≤ c && c ≤ 'f' then some (c.toNat - 'a'.toNat + 10)
  else if 'A' ≤ c && c ≤ 'F' then some (c.toNat - 'A'.toNat + 10)
  else none

/-- The number with so many digits to the base sixteen at the front of a text. -/
private def hexNumber (mode : Mode) : Nat → Nat → List Char → Option (Nat × List Char)
  | 0, value, s => some (value, s)
  | count + 1, value, s =>
    match mode.skip s with
    | [] => none
    | c :: rest => do hexNumber mode count (16 * value + (← hexValue? c)) rest

private def numbered (mode : Mode) (count : Nat) (s : List Char) : Option (Atom × List Char) := do
  let (value, rest) ← hexNumber mode count 0 s
  if value.isValidChar then
    return (.literal (Char.ofNat value) (count == 2 && value ≤ 0xff), mode.skip rest)
  else none

private def escape (mode : Mode) : List Char → Option (Atom × List Char)
  | [] => none
  | c :: rest =>
    match c with
    | 'x' => numbered mode 2 rest
    | 'u' => numbered mode 4 rest
    | 'U' => numbered mode 8 rest
    | 'p' | 'P' =>
      match mode.skip rest with
      | [] => none
      | name :: rest => if name == '\\' then none else some (.property, mode.skip rest)
    | 'd' | 's' | 'w' => some (.kind false, rest)
    | 'D' | 'S' | 'W' => some (.kind true, rest)
    | 'a' | 'f' | 't' | 'n' | 'r' | 'v' => some (.literal '\t' false, rest)
    | 'A' | 'z' => some (.anchor, rest)
    | 'b' | 'B' | '<' | '>' => some (.edge, rest)
    | c => if isPlainEscape c then some (.literal c false, rest) else none

/-! ## Sets -/

/-- The names of the sets that are written between colons. -/
private def setNames : List String :=
  ["alnum", "alpha", "ascii", "blank", "cntrl", "digit", "graph", "lower", "print", "punct",
    "space", "upper", "word", "xdigit"]

/-- A named set at the front of a text, behind its bracket: whether it is negated. -/
private def namedSet? (s : List Char) : Option (Bool × List Char) :=
  match s with
  | ':' :: rest =>
    let negated := rest.head? == some '^'
    let name := if negated then rest.drop 1 else rest
    match name.dropWhile (· != ':') with
    | ':' :: ']' :: rest =>
      if setNames.contains (String.ofList (name.takeWhile (· != ':'))) then some (negated, rest)
      else none
    | _ => none
  | _ => none

/-- The text behind the hyphens and the bracket that mean themselves at the front of a set. -/
private def leading (mode : Mode) : Bool → List Char → Option (List Char)
  | _, [] => none
  | first, c :: rest =>
    let plain := (Atom.literal c false).standsInSet mode
    if c == '-' then if plain then leading mode false (mode.skip rest) else none
    else if first && c == ']' then
      let rest := mode.skip rest
      if plain && !rest.isEmpty then some rest else none
    else some (c :: rest)
termination_by _ s => s.length
decreasing_by
  have : ∀ inRemark (t : List Char), (Mode.skip.go inRemark t).length ≤ t.length := by
    intro inRemark t
    induction t generalizing inRemark with
    | nil => simp [Mode.skip.go]
    | cons c t ih =>
      simp only [Mode.skip.go]
      split
      · exact Nat.le_succ_of_le (ih _)
      · split
        · exact Nat.le_succ_of_le (ih _)
        · split
          · exact Nat.le_succ_of_le (ih _)
          · exact Nat.le_refl _
  simp only [Mode.skip, List.length_cons]
  split
  · exact Nat.lt_succ_of_le (this _ _)
  · exact Nat.lt_succ_self _

/-- The text behind what opens a set and its bracket. -/
private def openSet (mode : Mode) (s : List Char) : Option (List Char) :=
  let s := mode.skip s
  if s.head? == some '^' then
    if mode.characters then leading mode true (mode.skip (s.drop 1)) else none
  else leading mode true s

private def setAtom (mode : Mode) : List Char → Option (Atom × List Char)
  | [] => none
  | '\\' :: rest => escape mode rest
  | c :: rest => some (.literal c false, rest)

/-- An atom of a set, or a range from one to another. -/
private def setRange (mode : Mode) (s : List Char) : Option (List Char) := do
  let (first, rest) ← setAtom mode s
  let rest := mode.skip rest
  let next := (mode.skip (rest.drop 1)).head?
  if rest.isEmpty || !first.standsInSet mode then none
  else if rest.head? != some '-' || next == some ']' || next == some '-' then return rest
  else
    let (last, rest) ← setAtom mode (mode.skip (rest.drop 1))
    match first, last with
    | .literal a _, .literal b _ =>
      if a ≤ b && last.standsInSet mode then return rest else none
    | _, _ => none

/-- The text behind the sets of which so many are open, read in at most `fuel` pieces. -/
private def sets (mode : Mode) : Nat → Nat → List Char → Option (List Char)
  | 0, _, _ => none
  | fuel + 1, depth, s =>
    match mode.skip s with
    | [] => none
    | ']' :: rest => if depth ≤ 1 then some rest else sets mode fuel (depth - 1) rest
    | '[' :: rest =>
      match namedSet? rest with
      | some (negated, rest) =>
        if (if mode.characters then mode.anyCase else negated) then none
        else sets mode fuel depth rest
      | none => do sets mode fuel (depth + 1) (← openSet mode rest)
    | '&' :: '&' :: rest => sets mode fuel depth rest
    | '-' :: '-' :: rest => sets mode fuel depth rest
    | '~' :: '~' :: rest => sets mode fuel depth rest
    | c :: rest => do sets mode fuel depth (← setRange mode (c :: rest))

/-- The text behind a set, behind whose first bracket it begins. -/
private def set (mode : Mode) (s : List Char) : Option (List Char) := do
  sets mode (s.length + 1) 1 (← openSet mode s)

/-! ## Groups -/

/-- Where a reader stands in a pattern. -/
private structure Place where
  mode : Mode := {}
  /-- Whether something that can be repeated stands in front. -/
  repeatable : Bool := false
  /-- The modes outside the groups that are open, the innermost first. -/
  outer : List Mode := []
  /-- The names of groups so far. -/
  names : List String := []

private def Place.item (place : Place) : Place := { place with repeatable := true }

/-- In a group that has just been opened, where the mode may differ. -/
private def Place.enter (place : Place) (mode : Mode) : Place :=
  { place with mode, repeatable := false, outer := place.mode :: place.outer }

private def isNameChar (first : Bool) (c : Char) : Bool :=
  if first then c == '_' || Text.alphabetic.contains c
  else c == '_' || c == '.' || c == '[' || c == ']' || Text.isAlphanumeric c

private def groupName (place : Place) (s : List Char) : Option (Place × List Char) :=
  let name := s.takeWhile (· != '>')
  match name, s.dropWhile (· != '>') with
  | c :: more, '>' :: rest =>
    let text := String.ofList name
    if isNameChar true c && more.all (isNameChar false) && !place.names.contains text then
      some ({ place.enter place.mode with names := text :: place.names }, rest)
    else none
  | _, _ => none

/-- The mode with some switches, none of which may be given twice. -/
private def switched (mode : Mode) (on : Bool) (given : List Char) : List Char → Option Mode
  | [] => if given.getLast? == some '-' then none else some mode
  | c :: rest =>
    if given.contains c then none
    else if c == '-' then switched mode false (given ++ [c]) rest
    else do switched (← mode.with? c on) on (given ++ [c]) rest

/-- Reads switches, which hold for a group or for the rest of the one they stand in. -/
private def switches (place : Place) (s : List Char) : Option (Place × List Char) :=
  let ends (c : Char) : Bool := c == ':' || c == ')'
  let given := s.takeWhile (!ends ·)
  match s.dropWhile (!ends ·) with
  | ':' :: rest => do return (place.enter (← switched place.mode true [] given), rest)
  | _ :: rest =>
    if given.isEmpty then none
    else do
      let mode ← switched place.mode true [] given
      return ({ place with mode, repeatable := false }, rest)
  | [] => none

private def openGroup (place : Place) (s : List Char) : Option (Place × List Char) :=
  match place.mode.skip s with
  | '?' :: '=' :: _ | '?' :: '!' :: _ => none
  | '?' :: '<' :: '=' :: _ | '?' :: '<' :: '!' :: _ => none
  | '?' :: 'P' :: '<' :: rest => groupName place rest
  | '?' :: '<' :: rest => groupName place rest
  | '?' :: rest => switches place rest
  | rest => some (place.enter place.mode, rest)

/-! ## Patterns -/

private def next (place : Place) (c : Char) (rest : List Char) : Option (Place × List Char) :=
  let atom (atom : Atom) (rest : List Char) : Option (Place × List Char) :=
    if atom.stands place.mode then some (place.item, rest) else none
  match c with
  | '(' => openGroup place rest
  | ')' =>
    match place.outer with
    | [] => none
    | mode :: outer => some ({ place.item with mode, outer }, rest)
  | '|' => some ({ place with repeatable := false }, rest)
  | '[' => do return (place.item, ← set place.mode rest)
  | '?' | '*' | '+' =>
    if place.repeatable then some (place, if rest.head? == some '?' then rest.drop 1 else rest)
    else none
  | '\x7b' => none
  | '\\' => do
    let (found, rest) ← escape place.mode rest
    atom found rest
  | '.' => if place.mode.characters then some (place.item, rest) else none
  | '^' | '$' => some (place.item, rest)
  | c => atom (.literal c false) rest

/-- Whether the rest of a pattern can be read in at most `fuel` pieces. -/
private def reads : Nat → Place → List Char → Bool
  | 0, _, _ => false
  | fuel + 1, place, s =>
    match place.mode.skip s with
    | [] => place.outer.isEmpty
    | c :: rest =>
      match next place c rest with
      | some (place, rest) => reads fuel place rest
      | none => false

def isPattern (text : String) : Bool := reads (text.length + 1) {} text.toList

/-! ## Values -/

/-- The text behind digits, if there are any. -/
private def digits? (s : List Char) : Option (List Char) :=
  if (s.head?.map Char.isDigit).getD false then some (s.dropWhile Char.isDigit) else none

/-- Whether a text is the exponent of a number, or nothing. -/
private def isExponent : List Char → Bool
  | [] => true
  | e :: rest =>
    let rest := if rest.head? == some '+' || rest.head? == some '-' then rest.drop 1 else rest
    (e == 'e' || e == 'E') && digits? rest == some []

/-- Whether a text is a number: digits with a point and an exponent, or the word for a number
without bounds or for no number. -/
def isNumber (text : String) : Bool :=
  let unsigned := match text.toList with
    | '+' :: rest | '-' :: rest => rest
    | s => s
  let word := String.ofList (unsigned.map Char.toLower)
  if word == "inf" || word == "infinity" || word == "nan" then true
  else match digits? unsigned, unsigned with
    | some ('.' :: rest), _ => isExponent (rest.dropWhile Char.isDigit)
    | some rest, _ => isExponent rest
    | none, '.' :: rest => (digits? rest).any isExponent
    | none, _ => false

/-- Whether the value of a field can be asked for by a text. Truth values are patterns too. -/
def isValue (text : String) : Bool := isNumber text || isPattern text

end MacDispatch.Pattern
