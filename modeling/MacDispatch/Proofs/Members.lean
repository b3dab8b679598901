import MacDispatch.Json.Decode
import Mathlib.Data.List.Forall2

/-! # Members

Records are read from the members of objects. Main statement: members with distinct keys are all
kept, as long as those that are fields can be read. A field then shows what its own member holds,
whichever members stand beside it and wherever it stands among them. -/

namespace MacDispatch

open List

namespace Decoder

/-- A list is read if each of its items is. -/
theorem list_of_forall₂ {α : Type} {decode : Decoder α} {intake : Intake} {values : List α}
    {items : List Json} (h : Forall₂ (fun a item => decode intake (.ofJson item) = .ok a) values
      items) : list decode intake (.ofJson (.array items)) = .ok values := by
  have hitems : (Reading.ofItems items).mapM (decode intake) = .ok values := by
    induction h with
    | nil => rfl
    | cons hread _ ih =>
      rw [Reading.ofItems, mapM_cons, hread, ih]
      rfl
  rw [Reading.ofJson, list, hitems]
  rfl

theorem list_ofJson {α : Type} {decode : Decoder α} {encode : α → Json} {intake : Intake}
    (h : ∀ a, decode intake (.ofJson (encode a)) = .ok a) (values : List α) :
    list decode intake (.ofJson (.array (values.map encode))) = .ok values :=
  list_of_forall₂ (forall₂_map_right_iff.mpr (forall₂_same.mpr fun a _ => h a))

/-- Whatever a field keeps does not show at a place. -/
def Field.Spares {P β : Type} (field : Field P) (get : P → Option β) : Prop :=
  ∀ intake reading p q, field.keep intake reading p = .ok q → get q = get p

theorem Field.spares_of {P β γ : Type} {name : String} {decode : Decoder β} {get : P → Option β}
    {set : β → P → P} {other : P → Option γ} (h : ∀ b p, other (set b p) = other p) :
    (Field.of name decode get set).Spares other := by
  intro intake reading p q hkeep
  obtain ⟨b, -, rfl⟩ := Field.keep_of_eq_ok_iff.mp hkeep
  exact h b p

namespace Record

variable {P α β : Type} {record : Record P α} {name : String} {decode : Decoder β}
  {get : P → Option β} {intake : Intake} {members : List (String × Json)} {p q : P}

/-! ## Fields apart from one another -/

theorem mem_of_field? {key : String} {field : Field P} (h : record.field? key = some field) :
    field ∈ record.fields ∧ field.name = key := by
  have hname := find?_some h
  exact ⟨mem_of_find?_eq_some h, beq_iff_eq.mp hname⟩

/-- What is read under a name shows at one place, which the other fields spare. -/
structure Shows (record : Record P α) (name : String) (decode : Decoder β)
    (get : P → Option β) : Prop where
  own : ∃ set, record.field? name = some (.of name decode get set) ∧
    ∀ b p, get (set b p) = some b
  others : ∀ field ∈ record.fields, field.name = name ∨ field.Spares get

/-- Every field has a place of its own. -/
def Orderly (record : Record P α) : Prop :=
  ∀ field ∈ record.fields, ∃ (β : Type) (decode : Decoder β) (get : P → Option β),
    record.Shows field.name decode get

/-- Whether a field was given does not change with another. -/
theorem Orderly.given_eq (h : record.Orderly) {key other : String} (hne : key ≠ other)
    {field next : Field P} (hfield : record.field? key = some field)
    (hnext : record.field? other = some next) {reading : Reading}
    (hkeep : field.keep intake reading p = .ok q) : next.given q = next.given p := by
  obtain ⟨hmem, rfl⟩ := mem_of_field? hfield
  obtain ⟨hmem', rfl⟩ := mem_of_field? hnext
  obtain ⟨β, decode, get, hshows⟩ := h next hmem'
  obtain ⟨set, hown, -⟩ := hshows.own
  have hgiven : ∀ p, next.given p = (get p).isSome := by
    rw [hnext, Option.some_inj] at hown
    intro p
    rw [hown, Field.of]
  have hspares := (hshows.others field hmem).resolve_left hne
  rw [hgiven, hgiven, hspares intake reading p q hkeep]

/-! ## All members -/

theorem exists_keepMembers (h : record.Orderly) (hnodup : (members.map Prod.fst).Nodup)
    (hfresh : ∀ key ∈ members.map Prod.fst, ∀ field, record.field? key = some field →
      field.given p = false)
    (hread : ∀ key value, (key, value) ∈ members → ∀ field, record.field? key = some field →
      ∀ p, ∃ q, field.keep intake (.ofJson value) p = .ok q) :
    ∃ q, record.keepMembers intake (Reading.ofMembers members) p = .ok q := by
  induction members generalizing p with
  | nil => exact ⟨p, rfl⟩
  | cons member rest ih =>
    obtain ⟨key, value⟩ := member
    rw [map_cons] at hnodup hfresh
    obtain ⟨hnew, hnodup⟩ := nodup_cons.mp hnodup
    have hrest : ∀ key value, (key, value) ∈ rest → ∀ field, record.field? key = some field →
        ∀ p, ∃ q, field.keep intake (.ofJson value) p = .ok q :=
      fun key value hmem => hread key value (mem_cons_of_mem _ hmem)
    cases hfield : record.field? key with
    | none =>
      obtain ⟨q, hq⟩ := ih hnodup (fun other hmem => hfresh other (mem_cons_of_mem _ hmem)) hrest
      exact ⟨q, keepMembers_cons_eq_ok_iff.mpr (.inr ⟨hfield, Reading.passing_ofJson value, hq⟩)⟩
    | some field =>
      obtain ⟨p', hp'⟩ := hread key value mem_cons_self field hfield p
      -- What is to come was not given, and still is not.
      have hfresh' : ∀ other ∈ rest.map Prod.fst, ∀ next, record.field? other = some next →
          next.given p' = false := by
        intro other hmem next hnext
        have hne : key ≠ other := fun he => hnew (he ▸ hmem)
        rw [h.given_eq hne hfield hnext hp']
        exact hfresh other (mem_cons_of_mem _ hmem) next hnext
      obtain ⟨q, hq⟩ := ih hnodup hfresh' hrest
      have hgiven : field.given p = false := hfresh key mem_cons_self field hfield
      exact ⟨q, keepMembers_cons_eq_ok_iff.mpr (.inl ⟨field, p', hfield, hgiven, hp', hq⟩)⟩

/-- Without a member of its name, a field shows what it did. -/
theorem get_of_notMem (h : record.Shows name decode get)
    (hkeep : record.keepMembers intake (Reading.ofMembers members) p = .ok q)
    (hname : name ∉ members.map Prod.fst) : get q = get p := by
  induction members generalizing p with
  | nil =>
    cases hkeep
    rfl
  | cons member rest ih =>
    obtain ⟨key, value⟩ := member
    rw [map_cons, mem_cons, not_or] at hname
    rcases keepMembers_cons_eq_ok_iff.mp hkeep with
      ⟨field, p', hfield, -, hp', hrest⟩ | ⟨-, -, hrest⟩
    · obtain ⟨hmem, rfl⟩ := mem_of_field? hfield
      have hspares := (h.others field hmem).resolve_left (Ne.symm hname.1)
      rw [ih hrest hname.2, hspares intake (.ofJson value) p p' hp']
    · exact ih hrest hname.2

/-- With a member of its name, a field shows what that holds. -/
theorem get_of_mem (h : record.Shows name decode get) (hnodup : (members.map Prod.fst).Nodup)
    (hkeep : record.keepMembers intake (Reading.ofMembers members) p = .ok q) {value : Json}
    (hmem : (name, value) ∈ members) :
    ∃ b, decode intake (.ofJson value) = .ok b ∧ get q = some b := by
  induction members generalizing p with
  | nil => cases hmem
  | cons member rest ih =>
    obtain ⟨key, first⟩ := member
    obtain ⟨hnew, hnodup⟩ := nodup_cons.mp (map_cons ▸ hnodup)
    rcases mem_cons.mp hmem with he | hlater
    · obtain ⟨rfl, rfl⟩ := Prod.mk.inj he
      obtain ⟨set, hown, hset⟩ := h.own
      rcases keepMembers_cons_eq_ok_iff.mp hkeep with
        ⟨field, p', hfield, -, hp', hrest⟩ | ⟨hnone, -, -⟩
      · obtain rfl := Option.some_inj.mp (hfield.symm.trans hown)
        obtain ⟨b, hread, rfl⟩ := Field.keep_of_eq_ok_iff.mp hp'
        exact ⟨b, hread, (get_of_notMem h hrest hnew).trans (hset b p)⟩
      · cases hnone.symm.trans hown
    · rcases keepMembers_cons_eq_ok_iff.mp hkeep with ⟨_, _, -, -, -, hrest⟩ | ⟨-, -, hrest⟩
      · exact ih hnodup hrest hlater
      · exact ih hnodup hrest hlater

end Record

end Decoder

end MacDispatch
