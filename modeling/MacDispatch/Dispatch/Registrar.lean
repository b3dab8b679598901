import MacDispatch.Dispatch.Draft

/-! # Registrars

A module does not register its hooks in a draft itself. It is handed a registrar, which files
whatever is attached through it under one feature. -/

namespace MacDispatch

/-- A draft with the feature under which hooks are filed in it. -/
structure Registrar (σ : Type) where
  feature : Feature
  draft : Draft σ

namespace Registrar

variable {σ : Type}

def attach (registrar : Registrar σ) (attachment : Attachment σ) : Traced (Registrar σ) := do
  let draft ← registrar.draft.register (attachment.under registrar.feature)
  return { registrar with draft }

def attachAll (registrar : Registrar σ) : List (Attachment σ) → Traced (Registrar σ)
  | [] => pure registrar
  | attachment :: rest => do (← registrar.attach attachment).attachAll rest

/-- Attaching comes to registering under the feature of the registrar. -/
theorem value_attachAll (registrar : Registrar σ) (attachments : List (Attachment σ)) :
    (registrar.attachAll attachments).value =
      ⟨registrar.feature, (registrar.draft.registerAll
        (attachments.map (·.under registrar.feature))).value⟩ := by
  induction attachments generalizing registrar with
  | nil => rfl
  | cons attachment rest ih =>
    rw [attachAll, Traced.value_bind, ih]
    rfl

theorem events_attachAll (registrar : Registrar σ) (attachments : List (Attachment σ)) :
    (registrar.attachAll attachments).events =
      (registrar.draft.registerAll (attachments.map (·.under registrar.feature))).events := by
  induction attachments generalizing registrar with
  | nil => rfl
  | cons attachment rest ih =>
    have hattach : (registrar.attach attachment).events =
        (registrar.draft.register (attachment.under registrar.feature)).events :=
      List.append_nil _
    rw [attachAll, Traced.events_bind, ih, hattach]
    rfl

end Registrar

end MacDispatch
