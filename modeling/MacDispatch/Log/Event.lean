/-! # Log events

What happens along the way is told as events. A computation that tells events is `Traced`: it
has a value, and the events in the order in which they were told. -/

namespace MacDispatch

/-- How much an event matters, from the least on. -/
inductive Level
  | trace
  | debug
  | info
  | warn
  | error
deriving DecidableEq, Repr

namespace Level

def name : Level → String
  | trace => "TRACE"
  | debug => "DEBUG"
  | info => "INFO"
  | warn => "WARN"
  | error => "ERROR"

/-- The weight of a level; the heavier one matters more. -/
def weight : Level → Nat
  | trace => 0
  | debug => 1
  | info => 2
  | warn => 3
  | error => 4

end Level

inductive FieldValue
  | text (value : String)
  | count (value : Nat)
  | flag (value : Bool)
deriving DecidableEq, Repr

/-- One event. `target` names the part of the program that told it. -/
structure Event where
  level : Level
  target : String
  message : String
  fields : List (String × FieldValue) := []
deriving DecidableEq, Repr

/-- A value with the events told on the way to it. -/
structure Traced (α : Type) where
  value : α
  events : List Event := []

namespace Traced

instance : Monad Traced where
  pure a := ⟨a, []⟩
  bind t f := ⟨(f t.value).value, t.events ++ (f t.value).events⟩

def tell (events : List Event) : Traced Unit := ⟨(), events⟩

variable {α β : Type}

@[simp] theorem value_pure (a : α) : (pure a : Traced α).value = a := rfl

@[simp] theorem events_pure (a : α) : (pure a : Traced α).events = [] := rfl

@[simp] theorem value_bind (t : Traced α) (f : α → Traced β) :
    (t >>= f).value = (f t.value).value := rfl

@[simp] theorem events_bind (t : Traced α) (f : α → Traced β) :
    (t >>= f).events = t.events ++ (f t.value).events := rfl

@[simp] theorem events_tell (events : List Event) : (tell events).events = events := rfl

end Traced

end MacDispatch
