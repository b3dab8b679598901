import MacDispatch.Log.Event
import MacDispatch.Log.Pattern

/-! # Log filters

A filter is a list of directives, written with commas between them, such as
`warn,radio_mac_hooks=debug`. Of the directives that concern an event the most specific one
decides whether the event is written. -/

namespace MacDispatch

/-- The least level that is let through; `none` lets nothing through. -/
abbrev Threshold := Option Level

namespace Threshold

def admits (threshold : Threshold) (level : Level) : Bool :=
  threshold.any fun least => least.weight ≤ level.weight

private def numbered : List Threshold :=
  [none, some .error, some .warn, some .info, some .debug, some .trace]

private def number? (text : String) : Option Nat :=
  let digits := match text.toList with
    | '+' :: rest => rest
    | s => s
  if digits.isEmpty || !digits.all Char.isDigit then none
  else some (digits.foldl (fun n c => 10 * n + (c.toNat - '0'.toNat)) 0)

/-- The threshold that a text names: a number from 0 to 5, or a word in any case. -/
def ofText? (text : String) : Option Threshold :=
  match number? text with
  | some n => numbered[n]?
  | none =>
    match String.ofList (text.toList.map Char.toLower) with
    | "off" => some none
    | "error" => some (some .error)
    | "warn" => some (some .warn)
    | "info" => some (some .info)
    | "debug" => some (some .debug)
    | "trace" => some (some .trace)
    | _ => none

end Threshold

structure Directive where
  /-- What the target of an event has to begin with. -/
  target? : Option String := none
  /-- Fields that an event has to have. -/
  fields : List String := []
  threshold : Threshold := some .trace
  /-- Whether it asks for an enclosing span or for the value of a field. No event of this
  program is inside a span, so that such a directive concerns none. -/
  inSpan : Bool := false
deriving DecidableEq, Repr

inductive DirectiveFault
  | malformed
  /-- A part of it would begin or end within a character. -/
  | torn
deriving DecidableEq, Repr

namespace Directive

/-- Where a reader stands in a directive. -/
private inductive Place
  | start
  /-- In a word that is a level or a target, which began at a position. -/
  | word (opening : Nat)
  | span (opening : Nat)
  | field (opening : Nat)
  | fields
  | spanEnd
  | level (opening : Nat)

/-- A text from a byte on, unless that byte lies within a character. -/
private def dropBytes : Nat → List Char → Except DirectiveFault (List Char)
  | 0, s => .ok s
  | _ + 1, [] => .ok []
  | n + 1, c :: rest =>
    if c.utf8Size ≤ n + 1 then dropBytes (n + 1 - c.utf8Size) rest else .error .torn

/-- The text between two bytes, each of which has to begin a character. -/
private def slice (text : List Char) (opening closing : Nat) : Except DirectiveFault String := do
  let behind ← dropBytes closing text
  let inner ← dropBytes opening text
  return String.ofList (inner.take (inner.length - behind.length))

/-- A directive with one more field. A field with a value is looked for in spans alone. -/
private def withField (directive : Directive) (text : String) : Except DirectiveFault Directive :=
  match text.splitOn "=" with
  | [""] => .error .malformed
  | [name] => .ok { directive with fields := directive.fields ++ [name] }
  | _ :: value :: _ =>
    if Pattern.isValue value then .ok { directive with inSpan := true } else .error .malformed
  | [] => .error .malformed

/-- Reads on at a character and its position in bytes; `cut` gives the text between two of
them. -/
private def next (cut : Nat → Nat → Except DirectiveFault String) (position : Nat) (c : Char) :
    Place × Directive → Except DirectiveFault (Place × Directive)
  | (.start, d) =>
    if c == '[' then .ok (.span (position + 1), d)
    else if c == '-' || c == ':' || c == '_' || Text.isAlphanumeric c then
      .ok (.word position, d)
    else .error .malformed
  | (.word opening, d) =>
    if c == '=' then do
      return (.level (position + 1), { d with target? := some (← cut opening position) })
    else if c == '[' then do
      return (.span (position + 1), { d with target? := some (← cut opening position) })
    else .ok (.word opening, d)
  | (.span opening, d) =>
    if c == ']' then do
      let _ ← cut opening position
      return (.spanEnd, { d with inSpan := true })
    else if c == '\x7b' then do
      let name ← cut opening position
      return (.field (position + 1), { d with inSpan := d.inSpan || name != "" })
    else .ok (.span opening, d)
  | (.field opening, d) =>
    if c == '\x7d' then do return (.fields, ← withField d (← cut opening position))
    else .ok (.field opening, d)
  | (.fields, d) => if c == ']' then .ok (.spanEnd, d) else .error .malformed
  | (.spanEnd, d) => if c == '=' then .ok (.level (position + 1), d) else .error .malformed
  | (.level opening, d) => .ok (.level opening, d)

/-- What is read when the text ends; `behind` gives the text from a position on. -/
private def finish (behind : Nat → Except DirectiveFault String) :
    Place × Directive → Except DirectiveFault Directive
  | (.word opening, d) => do
    let word ← behind opening
    match Threshold.ofText? word with
    | some threshold => return { d with threshold, target? := none }
    | none => return { d with target? := some word }
  | (.level opening, d) => do
    let word ← behind opening
    if word.isEmpty then return d
    match Threshold.ofText? word with
    | some threshold => return { d with threshold }
    | none => .error .malformed
  | (.spanEnd, d) => .ok d
  | _ => .error .malformed

/-- The directive that a text describes. The blanks around it are passed over, but positions
count from the front of what is left, so that blanks in front shift every part to the left. -/
def ofText (text : String) : Except DirectiveFault Directive := do
  let whole := text.toList
  let blank := Text.whitespace.contains
  let inner := ((whole.dropWhile blank).reverse.dropWhile blank).reverse
  let (state, _) ← inner.foldlM
    (fun (state, position) c => do
      return (← next (slice whole) position c state, position + c.utf8Size))
    ((Place.start, {}), 0)
  finish (fun opening => slice whole opening text.utf8ByteSize) state

def concerns (directive : Directive) (event : Event) : Bool :=
  !directive.inSpan && directive.target?.all (event.target.startsWith ·) &&
    directive.fields.all fun name => name == "message" || (event.fields.lookup name).isSome

/-- Whether a directive gives way to another that concerns the same event: the one with the
longer target wins, then the one with more fields, then the later names; otherwise the last. -/
def givesWayTo (directive other : Directive) : Bool :=
  let size (d : Directive) := d.target?.elim 0 fun target => target.utf8ByteSize + 1
  match compare (size directive) (size other) with
  | .lt => true
  | .gt => false
  | .eq =>
    match compare directive.fields.length other.fields.length with
    | .lt => true
    | .gt => false
    | .eq => !(other.fields < directive.fields)

end Directive

structure Filter where
  directives : List Directive
deriving DecidableEq, Repr

namespace Filter

private def parts (text : String) : List String := (text.splitOn ",").filter (· != "")

/-- The filter that a text describes, all of whose parts have to be directives. The first that is
none decides why the text is no filter. -/
def ofText (text : String) : Except DirectiveFault Filter := do
  return ⟨← (parts text).mapM Directive.ofText⟩

/-- The directive that a part of a filter describes, if it does; a torn part is no part. -/
private def directive? (part : String) : Option (Option Directive) :=
  match Directive.ofText part with
  | .ok directive => some (some directive)
  | .error .malformed => some none
  | .error .torn => none

/-- The filter that a text describes as far as its parts are directives, unless one is torn. A
text without any stands for errors alone. -/
def ofTextOrErrors? (text : String) : Option Filter := do
  match (← (parts text).mapM directive?).filterMap id with
  | [] => return ⟨[{ threshold := some .error }]⟩
  | directives => return ⟨directives⟩

/-- The filter in force: one that is given apart comes before the configured level, unless it
does not follow the grammar. There is none when a part of it is torn. -/
def inForce? (given : Option String) (level : String) : Option Filter :=
  match given.map ofText with
  | some (.ok filter) => some filter
  | some (.error .torn) => none
  | _ => ofTextOrErrors? level

def decisive? (filter : Filter) (event : Event) : Option Directive :=
  (filter.directives.filter (·.concerns event)).foldl
    (fun best? directive =>
      match best? with
      | none => some directive
      | some best => if best.givesWayTo directive then some directive else best)
    none

/-- Whether an event is written. -/
def admits (filter : Filter) (event : Event) : Bool :=
  (filter.decisive? event).any fun directive => directive.threshold.admits event.level

end Filter

end MacDispatch
