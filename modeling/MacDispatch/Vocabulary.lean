/-! # Vocabularies

A vocabulary is a finite type whose values have fixed names. Main statement: a text is read as
a value exactly when it is that value's name, with no case folded and no blank forgiven. -/

namespace MacDispatch

/-- A finite type of named values. `noun` says what an unknown name was expected to be, and
`tag` is the spelling of a value in structured text. -/
class Vocabulary (α : Type) where
  noun : String
  all : List α
  name : α → String
  tag : α → String
  mem_all : ∀ a, a ∈ all
  name_injective : ∀ a b, name a = name b → a = b

namespace Vocabulary

variable {α : Type} [Vocabulary α]

def ofName? (text : String) : Option α :=
  all.find? fun a => name a == text

def unknown (α : Type) [Vocabulary α] (text : String) : String :=
  "unknown " ++ noun α ++ " '" ++ text ++ "'"

/-- The position of a value in the order of the vocabulary. -/
def index [DecidableEq α] (a : α) : Nat :=
  (all : List α).idxOf a

theorem name_of_ofName? {text : String} {a : α} (h : ofName? text = some a) : name a = text := by
  simpa using List.find?_some h

@[simp] theorem ofName?_name (a : α) : ofName? (name a) = some a := by
  cases h : (ofName? (name a) : Option α) with
  | none => simpa using List.find?_eq_none.mp h a (mem_all a)
  | some b => exact congrArg some (name_injective b a (name_of_ofName? h))

theorem ofName?_eq_some_iff {text : String} {a : α} : ofName? text = some a ↔ text = name a :=
  ⟨fun h => (name_of_ofName? h).symm, fun h => h ▸ ofName?_name a⟩

theorem ofName?_eq_none_iff {text : String} :
    (ofName? text : Option α) = none ↔ ∀ a : α, text ≠ name a := by
  rw [ofName?, List.find?_eq_none]
  constructor
  · intro h a ha
    exact h a (mem_all a) (by simp [ha])
  · intro h a _ ha
    exact h a (by simpa using (beq_iff_eq.mp ha).symm)

end Vocabulary

end MacDispatch
