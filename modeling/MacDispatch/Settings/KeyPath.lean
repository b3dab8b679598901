import MacDispatch.Decimal.Bounds
import MacDispatch.Settings.Entry

/-! # Key paths

Sources are laid over one another: tables are merged key by key, and any other entry takes the
place of what was there. A top-level key of a source may be a path: a name, then further names
behind points, and indices in brackets, which count from the end if they are negative. A key that
is no path is a name by itself. -/

namespace MacDispatch

namespace Entries

/-- Changes the entry with the given name; where there is none, nothing was said. -/
def alter (name : String) (change : Entry → Entry) : Entries → Entries
  | [] => [(name, change .nothing)]
  | (key, entry) :: rest =>
    if key = name then (key, change entry) :: rest else (key, entry) :: alter name change rest

theorem get?_alter_self (name : String) (change : Entry → Entry) (entries : Entries) :
    (alter name change entries).get? name = some (change ((entries.get? name).getD .nothing)) := by
  induction entries with
  | nil => simp [alter, get?]
  | cons head rest ih =>
    obtain ⟨key, entry⟩ := head
    by_cases h : key = name
    · subst h
      simp [alter, get?]
    · have h' : (name == key) = false := by simpa using fun e => h e.symm
      simp only [get?] at ih
      simp [alter, get?, h, List.lookup_cons, h', ih]

theorem get?_alter_of_ne {name other : String} (h : other ≠ name) (change : Entry → Entry)
    (entries : Entries) : (alter name change entries).get? other = entries.get? other := by
  induction entries with
  | nil =>
    have h' : (other == name) = false := by simpa using h
    simp [alter, get?, List.lookup_cons, h']
  | cons head rest ih =>
    obtain ⟨key, entry⟩ := head
    simp only [get?] at ih
    by_cases hk : key = name
    · subst hk
      have h' : (other == key) = false := by simpa using h
      simp [alter, get?, List.lookup_cons, h']
    · simp [alter, get?, hk, List.lookup_cons, ih]

end Entries

namespace Entry

mutual

/-- Lays an entry over another. -/
def lay : Entry → Entry → Entry
  | table _ incoming, current =>
    table current.opened.1 (layMembers incoming current.opened.2)
  | incoming, _ => incoming

def layMembers : Entries → Entries → Entries
  | [], current => current
  | (key, entry) :: rest, current => layMembers rest (Entries.alter key (lay entry) current)

end

end Entry

inductive PathStep
  | key (name : String)
  | index (index : Int)
deriving DecidableEq, Repr

structure KeyPath where
  root : String
  steps : List PathStep := []
deriving DecidableEq, Repr

namespace KeyPath

private def isNameChar (c : Char) : Bool :=
  c.isAlphanum || c == '_' || c == '-'

/-- Whether a text is a name that may stand in a path. -/
def isName (text : String) : Bool := text != "" && text.toList.all isNameChar

private def isBlank (c : Char) : Bool := c == ' ' || c == '\t'

private def name? (s : List Char) : Option (String × List Char) :=
  match s.takeWhile isNameChar with
  | [] => none
  | name => some (String.ofList name, s.dropWhile isNameChar)

/-- An index up to its closing bracket, and the rest. -/
private def index? (s : List Char) : Option (Int × List Char) :=
  let s := s.dropWhile isBlank
  let negative := s.head? == some '-'
  let s := if negative then s.tail else s
  let digits := s.takeWhile Char.isDigit
  let n := digits.foldl (fun n c => 10 * n + (c.toNat - '0'.toNat)) 0
  let value : Int := if negative then -(n : Int) else n
  if digits.isEmpty || !fitsInteger value then none
  else
    match (s.dropWhile Char.isDigit).dropWhile isBlank with
    | ']' :: rest => some (value, rest)
    | _ => none

private def steps? : Nat → List Char → Option (List PathStep)
  | _, [] => some []
  | fuel + 1, '.' :: rest => do
    let (name, rest) ← name? rest
    return .key name :: (← steps? fuel rest)
  | fuel + 1, '[' :: rest => do
    let (index, rest) ← index? rest
    return .index index :: (← steps? fuel rest)
  | _, _ => none

def ofText (text : String) : KeyPath :=
  let path : Option KeyPath := do
    let (root, rest) ← name? text.toList
    return ⟨root, ← steps? rest.length rest⟩
  path.getD ⟨text, []⟩

/-- A text without points and opening brackets is a name by itself. -/
theorem ofText_of_plain {text : String} (hpoint : '.' ∉ text.toList)
    (hbracket : '[' ∉ text.toList) : ofText text = ⟨text, []⟩ := by
  cases hword : text.toList.takeWhile isNameChar with
  | nil => simp [ofText, name?, hword]
  | cons c word =>
    cases hrest : text.toList.dropWhile isNameChar with
    | nil =>
      have htext : String.ofList (c :: word) = text := by
        have hsplit := List.takeWhile_append_dropWhile (p := isNameChar) (l := text.toList)
        rw [hword, hrest, List.append_nil] at hsplit
        rw [hsplit, String.ofList_toList]
      simp [ofText, name?, hword, hrest, steps?, htext]
    | cons d rest =>
      have hd : d ∈ text.toList := (List.dropWhile_sublist _).subset (hrest ▸ List.mem_cons_self)
      have hne : d ≠ '.' ∧ d ≠ '[' := ⟨fun he => hpoint (he ▸ hd), fun he => hbracket (he ▸ hd)⟩
      simp [ofText, name?, hword, hrest, steps?, hne]

private theorem name?_of_isName {name : String} (h : isName name = true) {rest : List Char}
    (hrest : ∀ c ∈ rest.head?, isNameChar c = false) :
    name? (name.toList ++ rest) = some (name, rest) := by
  obtain ⟨hne, hall⟩ : name ≠ "" ∧ ∀ c ∈ name.toList, isNameChar c = true := by
    simpa [isName] using h
  have htake : (name.toList ++ rest).takeWhile isNameChar = name.toList := by
    rw [List.takeWhile_append_of_pos hall]
    cases rest with
    | nil => simp
    | cons c rest => simp [hrest c rfl]
  have hdrop : (name.toList ++ rest).dropWhile isNameChar = rest := by
    rw [List.dropWhile_append_of_pos hall]
    cases rest with
    | nil => rfl
    | cons c rest => simp [hrest c rfl]
  rw [name?, htake, hdrop]
  cases hlist : name.toList with
  | nil => exact absurd (String.toList_eq_nil_iff.mp hlist) hne
  | cons c word =>
    have hname : String.ofList (c :: word) = name := by rw [← hlist, String.ofList_toList]
    simp only [hname]

/-- Names, each behind a point. -/
private def tailOf (names : List String) : List Char := names.flatMap fun name => '.' :: name.toList

private theorem tailOf_cons (name : String) (names : List String) :
    tailOf (name :: names) = '.' :: (name.toList ++ tailOf names) := by
  simp [tailOf]

private theorem length_le_tailOf (names : List String) : names.length ≤ (tailOf names).length := by
  induction names with
  | nil => exact Nat.le_refl 0
  | cons name rest ih =>
    rw [tailOf_cons, List.length_cons, List.length_cons, List.length_append]
    omega

private theorem head?_tailOf (names : List String) :
    ∀ c ∈ (tailOf names).head?, isNameChar c = false := by
  intro c hc
  cases names with
  | nil => simp [tailOf] at hc
  | cons name rest =>
    obtain rfl : '.' = c := by simpa [tailOf_cons] using hc
    decide

private theorem steps?_tailOf {names : List String} (h : ∀ name ∈ names, isName name = true)
    (fuel : Nat) (hfuel : names.length ≤ fuel) :
    steps? fuel (tailOf names) = some (names.map .key) := by
  induction names generalizing fuel with
  | nil => cases fuel <;> rfl
  | cons name rest ih =>
    obtain ⟨hname, hrest⟩ := List.forall_mem_cons.mp h
    cases fuel with
    | zero => simp at hfuel
    | succ fuel =>
      rw [tailOf_cons, steps?, name?_of_isName hname (head?_tailOf rest)]
      simp [ih hrest fuel (Nat.le_of_succ_le_succ hfuel)]

private theorem toList_intercalate (name : String) (names : List String) :
    (".".intercalate (name :: names)).toList = name.toList ++ tailOf names := by
  induction names generalizing name with
  | nil => simp [tailOf]
  | cons next rest ih =>
    rw [tailOf_cons, ← ih next, String.toList_intercalate, String.toList_intercalate, List.map_cons,
      List.map_cons, List.intercalate_cons_cons]
    simp

/-- Names with points between them are a path. -/
theorem ofText_intercalate {name : String} {names : List String}
    (h : ∀ member ∈ name :: names, isName member = true) :
    ofText (".".intercalate (name :: names)) = ⟨name, names.map .key⟩ := by
  obtain ⟨hname, hnames⟩ := List.forall_mem_cons.mp h
  rw [ofText, toList_intercalate, name?_of_isName hname (head?_tailOf names)]
  simp [steps?_tailOf hnames _ (length_le_tailOf names)]

/-- A list in which the item at an index is changed. A list that is too short grows at its end,
or at its front for an index that counts from the end. -/
private def alterItem (index : Int) (change : Entry → Entry) (items : List Entry) : List Entry :=
  let place := if index < 0 then index + items.length else index
  if place < 0 then
    change .nothing :: List.replicate (place.natAbs - 1) .nothing ++ items
  else
    let place := place.toNat
    let items := items ++ List.replicate (place + 1 - items.length) .nothing
    items.modify place change

/-- The items of a list; any other entry gives way to a list of no origin. -/
private def listed : Entry → Option String × List Entry
  | .list origin items => (origin, items)
  | _ => (none, [])

/-- Changes the entry at the end of a path within an entry. -/
def alterAt (change : Entry → Entry) : List PathStep → Entry → Entry
  | [], entry => change entry
  | .key name :: steps, entry =>
    .table entry.opened.1 (Entries.alter name (alterAt change steps) entry.opened.2)
  | .index index :: steps, entry =>
    .list (listed entry).1 (alterItem index (alterAt change steps) (listed entry).2)

def alter (path : KeyPath) (change : Entry → Entry) (entries : Entries) : Entries :=
  Entries.alter path.root (alterAt change path.steps) entries

end KeyPath

end MacDispatch
