import MacDispatch.Dispatch.Signal

/-! # Deeds

Besides answering, a hook may do something: tell an event, record a call in a log, keep a
continuation for later, or call one. What it does cannot depend on what was done before by others,
so it is enough to write down what is done, in order. A computation that does something is
`Acted`. -/

namespace MacDispatch

structure ProbeCall where
  channel : Channel
  feature : Feature
  verdict? : Option Bool
deriving DecidableEq, Repr

/-- A continuation called with a frame and an error. -/
structure Notice where
  callback : Callback
  frame : Frame
  error : TxError
deriving DecidableEq, Repr

def Notice.events (notice : Notice) : List Event :=
  notice.callback.events notice.frame notice.error

/-- Something that is done, apart from answering. -/
inductive Deed
  | tell (event : Event)
  | record (call : ProbeCall)
  | keep (keeper : Feature) (callback : Callback)
  | notify (notice : Notice)
deriving DecidableEq, Repr

def Deed.events : Deed → List Event
  | tell event => [event]
  | record _ | keep _ _ => []
  | notify notice => notice.events

/-- A value with the deeds done on the way to it. -/
structure Acted (α : Type) where
  value : α
  deeds : List Deed := []

namespace Acted

instance : Monad Acted where
  pure a := ⟨a, []⟩
  bind t f := ⟨(f t.value).value, t.deeds ++ (f t.value).deeds⟩

variable {α β : Type}

def perform (deed : Deed) : Acted Unit := ⟨(), [deed]⟩

def traced (t : Acted α) : Traced α := ⟨t.value, t.deeds.flatMap Deed.events⟩

@[simp] theorem value_pure (a : α) : (pure a : Acted α).value = a := rfl

@[simp] theorem deeds_pure (a : α) : (pure a : Acted α).deeds = [] := rfl

@[simp] theorem value_bind (t : Acted α) (f : α → Acted β) :
    (t >>= f).value = (f t.value).value := rfl

@[simp] theorem deeds_bind (t : Acted α) (f : α → Acted β) :
    (t >>= f).deeds = t.deeds ++ (f t.value).deeds := rfl

end Acted

end MacDispatch
