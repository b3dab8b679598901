import MacDispatch.Dispatch.Registrar

/-! # Assembly

Modules bring the hooks of their features. An assembly keeps one module for each feature, in the
order in which they were added, and builds a registry from those whose feature is on. -/

namespace MacDispatch

/-- What a module does when it is asked for its hooks: it registers some, and then ends well or
fails. -/
structure FeatureModule (σ : Type) where
  feature : Feature
  hooks : List (Attachment σ)
  failure : Option Failure := none

/-- The registrations that the module makes under its own feature. -/
def FeatureModule.registrations {σ : Type} (module : FeatureModule σ) : List (Registration σ) :=
  module.hooks.map (·.under module.feature)

/-- Has the module attach its hooks, and then end well or with a failure. What it attached before
a failure stays. -/
def FeatureModule.registerHooks {σ : Type} (module : FeatureModule σ) (registrar : Registrar σ) :
    Traced (Option Failure × Registrar σ) := do
  let registrar ← registrar.attachAll module.hooks
  return (module.failure, registrar)

theorem FeatureModule.value_registerHooks {σ : Type} (module : FeatureModule σ)
    (registrar : Registrar σ) :
    (module.registerHooks registrar).value =
      (module.failure, ⟨registrar.feature, (registrar.draft.registerAll
        (module.hooks.map (·.under registrar.feature))).value⟩) := by
  rw [registerHooks, Traced.value_bind, Registrar.value_attachAll]
  rfl

theorem FeatureModule.events_registerHooks {σ : Type} (module : FeatureModule σ)
    (registrar : Registrar σ) :
    (module.registerHooks registrar).events = (registrar.draft.registerAll
      (module.hooks.map (·.under registrar.feature))).events := by
  rw [registerHooks, Traced.events_bind, Registrar.events_attachAll]
  exact List.append_nil _

/-- The modules added so far, and which optional features are on. -/
structure Assembly (σ : Type) where
  features : FeatureSet
  modules : List (FeatureModule σ) := []

namespace Assembly

variable {σ : Type}

def empty (features : FeatureSet) : Assembly σ := ⟨features, []⟩

private def tell (level : Level) (message : String) (fields : List (String × FieldValue)) : Event :=
  ⟨level, "radio_mac_hooks::manager", message, fields⟩

def added (feature : Feature) : Event :=
  tell .debug "Feature module added" [("feature", .text feature.name)]

/-- Told of an always-present feature without a module. -/
def unfilled (feature : Feature) : Event :=
  tell .warn "No module added for an always-present feature" [("feature", .text feature.name)]

def skipped (feature : Feature) : Event :=
  tell .debug "Feature disabled, module skipped" [("feature", .text feature.name)]

def assembled (layout : ChannelLayout) : Event :=
  tell .info "Channel assembled"
    [("channel", .text layout.channel.name), ("policy", .text layout.policy.name),
      ("candidates", .text (Text.Outline.list (layout.candidates.map Vocabulary.outline)).inline)]

def has (assembly : Assembly σ) (feature : Feature) : Bool :=
  assembly.modules.any (·.feature == feature)

/-- Adds a module, unless its feature has one: whether it was taken, and the assembly as it is
then. -/
def add (assembly : Assembly σ) (module : FeatureModule σ) :
    Traced (Except AssemblyFault Unit × Assembly σ) := do
  if assembly.has module.feature then
    return (.error (.repeatedModule module.feature), assembly)
  Traced.tell [added module.feature]
  return (.ok (), { assembly with modules := assembly.modules ++ [module] })

/-- Adds a module, and gives up the assembly if it is refused. -/
def withModule (assembly : Assembly σ) (module : FeatureModule σ) :
    Traced (Except AssemblyFault (Assembly σ)) := do
  let (taken, assembly) ← assembly.add module
  return taken.map fun _ => assembly

/-- Adds modules one after another, up to the first that is refused. -/
def addAll (assembly : Assembly σ) :
    List (FeatureModule σ) → Traced (Except AssemblyFault (Assembly σ))
  | [] => return .ok assembly
  | module :: rest => do
    match ← assembly.withModule module with
    | .error fault => return .error fault
    | .ok assembly => assembly.addAll rest

/-- The features that have a module, in order of rank. -/
def moduleFeatures (assembly : Assembly σ) : List Feature :=
  Feature.sort (assembly.modules.map FeatureModule.feature)

def missing (assembly : Assembly σ) : List Feature :=
  Feature.all.filter fun feature => !feature.isOptional && !assembly.has feature

/-- Registers the hooks of modules whose feature is on, up to the first module that fails. -/
def collect (draft : Draft σ) : List (FeatureModule σ) → Traced (Except AssemblyFault (Draft σ))
  | [] => pure (.ok draft)
  | module :: rest =>
    if module.feature.isEnabledIn draft.features then do
      let (failure?, registrar) ← module.registerHooks ⟨module.feature, draft⟩
      match failure? with
      | some failure => pure (.error (.registration module.feature failure.message))
      | none => collect registrar.draft rest
    else do
      Traced.tell [skipped module.feature]
      collect draft rest

def build (assembly : Assembly σ) : Traced (Except AssemblyFault (Registry σ)) := do
  Traced.tell (assembly.missing.map unfilled)
  match ← collect (.empty assembly.features) assembly.modules with
  | .error fault => pure (.error fault)
  | .ok draft =>
    match ← draft.freeze with
    | .error fault => pure (.error fault)
    | .ok registry => do
      Traced.tell (registry.layout.map assembled)
      return .ok registry

end Assembly

end MacDispatch
