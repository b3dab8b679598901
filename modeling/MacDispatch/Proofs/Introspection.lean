import Mathlib.Algebra.Ring.Nat
import MacDispatch.Proofs.Frozen

/-! # Introspection

Main statement: what a frozen registry tells about itself agrees with what its dispatches do.
A broadcast calls exactly the candidates that are listed for its channel; a dispatch that asks for
consent calls the first of them, and all unless it is refused. -/

namespace MacDispatch

open List

variable {σ : Type}

namespace Registry

/-! ## Layouts -/

theorem map_channel_layout (registry : Registry σ) :
    registry.layout.map ChannelLayout.channel = Channel.all := by
  simp [layout, ChannelLayout.ofFeatures, Function.comp_def]

end Registry

end MacDispatch
