import MacDispatch.Json.NumberReader
import MacDispatch.Json.StringReader

/-! # Reading JSON text

The reader turns a text into a `Reading` and never refuses: it goes on as long as what it meets
can at least be passed over, and marks the place where it cannot. -/

namespace MacDispatch.Json

def isBlank (c : Char) : Bool := c == ' ' || c == '\n' || c == '\t' || c == '\r'

private def skip (s : List Char) : List Char := s.dropWhile isBlank

private theorem length_skip (s : List Char) : (skip s).length ≤ s.length :=
  (List.dropWhile_sublist _).length_le

/-- Something read from the front of a text; `stopped` when nothing behind it can be read. -/
private structure Scan (α : Type) (s : List Char) where
  value : α
  stopped : Bool
  rest : Rest s

private def Scan.widen {α : Type} {s t : List Char} (h : t.length ≤ s.length) (scan : Scan α t) :
    Scan α s :=
  ⟨scan.value, scan.stopped, ⟨scan.rest.1, Nat.le_trans scan.rest.2 h⟩⟩

private def Scan.map {α β : Type} {s : List Char} (f : α → β) (scan : Scan α s) : Scan β s :=
  ⟨f scan.value, scan.stopped, scan.rest⟩

private def Scan.stop {α : Type} {s : List Char} (value : α) : Scan α s :=
  ⟨value, true, ⟨[], by simp⟩⟩

/-- Items behind a bracket, with the fault that ends them. -/
private abbrev Items := List Reading × Option Fault

private abbrev Members := List (Except Broken String × Reading) × Option Fault

private def stops {α : Type} : Except Broken α → Bool
  | .ok _ => false
  | .error broken => broken.passing.isSome

/-- Reads one of the three words at the front of a text; `broken` is what is seen of a text that
only begins as the word does. -/
private def scanWord (word : List Char) (value : Reading) (broken : Fault → Reading)
    (s : List Char) : Scan Reading s :=
  if word.isPrefixOf s then
    ⟨value, false, ⟨s.drop word.length, by simp⟩⟩
  else .stop (broken (if s.isPrefixOf word then .truncated else .malformed))

mutual

private def scanValue (s : List Char) : Scan Reading s :=
  have bound := length_skip s
  match h : skip s with
  | [] => .stop .absent
  | 'n' :: r => (scanWord "null".toList .null .brokenNull ('n' :: r)).widen (h ▸ bound)
  | 't' :: r => (scanWord "true".toList (.bool true) .faulty ('t' :: r)).widen (h ▸ bound)
  | 'f' :: r => (scanWord "false".toList (.bool false) .faulty ('f' :: r)).widen (h ▸ bound)
  | '"' :: r =>
    let (text, rest) := scanString [] none r
    ⟨.string text, stops text, ⟨rest.1, by
      have := rest.2; simp only [h, List.length_cons] at bound; omega⟩⟩
  | '[' :: r =>
    have inner := length_skip r
    match hr : skip r with
    | [] => .stop (.array [] (some .truncated))
    | ']' :: r' => ⟨.array [] none, false, ⟨r', by
        simp only [h, hr, List.length_cons] at bound inner; omega⟩⟩
    | _ :: _ =>
      ((scanItems (skip r)).map fun (items, fault) => .array items fault).widen (by
        simp only [h, List.length_cons] at bound; omega)
  | '\x7b' :: r =>
    have inner := length_skip r
    match hr : skip r with
    | [] => .stop (.object [] (some .truncated))
    | '\x7d' :: r' => ⟨.object [] none, false, ⟨r', by
        simp only [h, hr, List.length_cons] at bound inner; omega⟩⟩
    | '"' :: r' =>
      ((scanMembers r').map fun (members, fault) => .object members fault).widen (by
        simp only [h, hr, List.length_cons] at bound inner; omega)
    | _ :: _ => .stop (.object [] (some .malformed))
  | c :: r =>
    if c == '-' || c.isDigit then
      let scanned := Number.scan (c :: r)
      ⟨.number scanned.1, stops scanned.1, ⟨scanned.2, by
        have := Number.length_scan (c :: r)
        rw [h] at bound
        exact Nat.le_trans this bound⟩⟩
    else .stop (.faulty .malformed)
termination_by (s.length, 0)
decreasing_by
  · simp only [h, List.length_cons] at bound
    omega
  · simp only [h, hr, List.length_cons] at bound inner
    omega

/-- Reads items, the first of which begins here. -/
private def scanItems (s : List Char) : Scan Items s :=
  let item := scanValue s
  have bound := item.rest.2
  if item.stopped then .stop ([item.value], none)
  else
    have inner := length_skip item.rest.1
    match h : skip item.rest.1 with
    | [] => .stop ([item.value], some .truncated)
    | ']' :: r => ⟨([item.value], none), false, ⟨r, by
        simp only [h, List.length_cons] at inner; omega⟩⟩
    | ',' :: r =>
      if (skip r).head? == some ']' then .stop ([item.value, .faulty .malformed], none)
      else
        ((scanItems r).map fun (items, fault) => (item.value :: items, fault)).widen (by
          simp only [h, List.length_cons] at inner; omega)
    | _ => .stop ([item.value], some .malformed)
termination_by (s.length, 1)
decreasing_by
  · exact Prod.Lex.right _ (by decide)
  · simp only [h, List.length_cons] at inner
    omega

/-- Reads members, the first of which begins before this place with a quote. -/
private def scanMembers (s : List Char) : Scan Members s :=
  let (key, rest) := scanString [] none s
  have bound := rest.2
  if stops key then .stop ([(key, .absent)], none)
  else
    have inner := length_skip rest.1
    match h : skip rest.1 with
    | [] => .stop ([(key, .absent)], none)
    | ':' :: r =>
      let value := scanValue r
      have bound' := value.rest.2
      if value.stopped then .stop ([(key, value.value)], none)
      else
        have inner' := length_skip value.rest.1
        match h' : skip value.rest.1 with
        | [] => .stop ([(key, value.value)], some .truncated)
        | '\x7d' :: r' => ⟨([(key, value.value)], none), false, ⟨r', by
            simp only [h, h', List.length_cons] at inner inner'; omega⟩⟩
        | ',' :: r' =>
          let next (fault : Fault) : Scan Members s :=
            .stop ([(key, value.value), (.error ⟨fault, some fault⟩, .absent)], none)
          have inner'' := length_skip r'
          match h'' : skip r' with
          | [] => next .truncated
          | '"' :: r'' =>
            ((scanMembers r'').map fun (members, fault) =>
              ((key, value.value) :: members, fault)).widen (by
                simp only [h, h', h'', List.length_cons] at inner inner' inner''; omega)
          | _ => next .malformed
        | _ => .stop ([(key, value.value)], some .malformed)
    | _ => .stop ([(key, .faulty .malformed)], none)
termination_by (s.length, 0)
decreasing_by
  · simp only [h, List.length_cons] at inner
    omega
  · simp only [h, h', h'', List.length_cons] at inner inner' inner''
    omega

end

def Document.ofText (text : String) : Document :=
  let scan := scanValue text.toList
  ⟨scan.value, !scan.stopped && !(skip scan.rest.1).isEmpty⟩

def ofText? (text : String) : Option Json := (Document.ofText text).toJson?

/-- No value begins with a character outside ASCII. -/
theorem ofText?_eq_none_of_not_ascii {text : String} {c : Char} {rest : List Char}
    (h : text.toList = c :: rest) (hc : 0x80 ≤ c.toNat) : ofText? text = none := by
  have hne : ∀ d : Char, d.toNat < 0x80 → c ≠ d := by
    rintro d hd rfl
    omega
  have hskip : skip text.toList = c :: rest := by
    rw [h, skip, List.dropWhile_cons_of_neg]
    simp [isBlank, hne]
  have hfirst : ∀ d r, skip text.toList = d :: r → d = c :=
    fun d r hd => (List.cons.inj (hd.symm.trans hskip)).1
  have hdigit : c.isDigit = false := by
    rw [Bool.eq_false_iff]
    intro hdigit
    have hle : c.toNat ≤ 57 := (Char.isDigit_iff_toNat.mp hdigit).2
    omega
  have hvalue : (scanValue text.toList).value = .faulty .malformed := by
    rw [scanValue]
    split
    case h_1 heq => simp [hskip] at heq
    case h_8 d r _ _ _ _ _ _ heq =>
      obtain rfl := hfirst d r heq
      simp [hdigit, hne, Scan.stop]
    all_goals
      rename_i r heq
      exact absurd (hfirst _ r heq).symm (hne _ (by decide))
  rw [ofText?, Document.ofText, Document.toJson?]
  simp [hvalue, Reading.toJson?]

end MacDispatch.Json
