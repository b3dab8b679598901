import MacDispatch.Dispatch.Registry
import MacDispatch.Failure

/-! # Drafts

A draft collects registrations until it is frozen into a registry. Registrations under a feature
that is off are dropped; a feature may have one hook on a channel, and whichever was registered
first, candidates are asked by rank. -/

namespace MacDispatch

inductive AssemblyFault
  | repeatedHook (feature : Feature) (channel : Channel)
  | repeatedModule (feature : Feature)
  | registration (feature : Feature) (message : String)
deriving DecidableEq, Repr

namespace AssemblyFault

def message : AssemblyFault → String
  | repeatedHook feature channel =>
    "feature '" ++ feature.name ++ "' registered more than one hook on channel '"
      ++ channel.name ++ "'"
  | repeatedModule feature => "a module for feature '" ++ feature.name ++ "' is already added"
  | registration feature message =>
    "feature '" ++ feature.name ++ "' failed to register hooks: " ++ message

def failure (fault : AssemblyFault) : Failure := .validation fault.message

end AssemblyFault

structure Attachment (σ : Type) where
  channel : Channel
  hook : Hook σ channel

structure Registration (σ : Type) where
  feature : Feature
  channel : Channel
  hook : Hook σ channel

def Attachment.under {σ : Type} (attachment : Attachment σ) (feature : Feature) :
    Registration σ :=
  ⟨feature, attachment.channel, attachment.hook⟩

/-- The candidate that a registration makes on a channel, if that is its own. -/
def Registration.candidate? {σ : Type} (registration : Registration σ) (c : Channel) :
    Option (Candidate σ c) :=
  if h : registration.channel = c then some ⟨registration.feature, h ▸ registration.hook⟩
  else none

/-- The tables under construction: the candidates of each channel in the order of their
registration. As in a registry, a table is known by its channel and needs no mark of it. -/
structure Draft (σ : Type) where
  features : FeatureSet
  pending : (c : Channel) → List (Candidate σ c)

namespace Draft

variable {σ : Type}

def empty (features : FeatureSet) : Draft σ := ⟨features, fun _ => []⟩

@[simp] theorem features_empty (features : FeatureSet) :
    (empty features : Draft σ).features = features := rfl

def push (draft : Draft σ) (registration : Registration σ) : Draft σ where
  features := draft.features
  pending c := draft.pending c ++ (registration.candidate? c).toList

def dropped (channel : Channel) (feature : Feature) : Event where
  level := .debug
  target := "radio_mac_hooks::hooks::registry"
  message := "Feature disabled, hook not registered"
  fields := [("channel", .text channel.name), ("feature", .text feature.name)]

/-- Adds a registration, unless its feature is off. -/
def register (draft : Draft σ) (registration : Registration σ) : Traced (Draft σ) :=
  if registration.feature.isEnabledIn draft.features then
    ⟨draft.push registration, []⟩
  else ⟨draft, [dropped registration.channel registration.feature]⟩

def registerAll (draft : Draft σ) : List (Registration σ) → Traced (Draft σ)
  | [] => pure draft
  | registration :: rest => do (← draft.register registration).registerAll rest

/-- The candidates of a channel by rank; those of one feature stay in order. -/
def ranked (draft : Draft σ) (c : Channel) : List (Candidate σ c) :=
  (draft.pending c).mergeSort fun a b => a.feature.le b.feature

/-- The first feature that follows itself. -/
def firstRepeated : List Feature → Option Feature
  | a :: b :: rest => if a = b then some a else firstRepeated (b :: rest)
  | _ => none

/-- The highest feature with more than one hook on a channel. -/
def repeated? (draft : Draft σ) (c : Channel) : Option Feature :=
  firstRepeated ((draft.ranked c).map Candidate.feature)

/-- The first channel on which a feature has more than one hook, with that feature. -/
def fault? (draft : Draft σ) : Option AssemblyFault :=
  Channel.all.findSome? fun c => (draft.repeated? c).map (.repeatedHook · c)

def tables (draft : Draft σ) : Registry σ := ⟨draft.features, draft.ranked⟩

def frozen (registry : Registry σ) : Event where
  level := .info
  target := "radio_mac_hooks::hooks::registry"
  message := "Hook registry frozen"
  fields := [("candidates", .count registry.total),
    ("optional_features", .count registry.features.count)]

/-- Freezes the draft, unless a feature has more than one hook on a channel. -/
def freeze (draft : Draft σ) : Traced (Except AssemblyFault (Registry σ)) :=
  match draft.fault? with
  | some fault => pure (.error fault)
  | none => ⟨.ok draft.tables, [frozen draft.tables]⟩

end Draft

end MacDispatch
