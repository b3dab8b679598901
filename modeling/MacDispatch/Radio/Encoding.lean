import MacDispatch.Json.Decode
import MacDispatch.Radio.Priority
import MacDispatch.Radio.Switches
import MacDispatch.Text.Outline

/-! # Encoded radio values

How the values of the radio are written in JSON, read from it, and shown to a developer. A named
value is written as its name. -/

namespace MacDispatch

open Text (Outline)

def Vocabulary.json {α : Type} [Vocabulary α] (a : α) : Json := .string (name a)

def Vocabulary.outline {α : Type} [Vocabulary α] (a : α) : Outline := .word (tag a)

namespace Priority

/-- A priority in JSON is its number. -/
def json (p : Priority) : Json := .nat p.val.toNat

def decoder : Decoder Priority :=
  fun intake reading => (Decoder.word32 intake reading).map Priority.mk

def outline (p : Priority) : Outline := .wrapped "Priority" [.nat p.val.toNat]

end Priority

/-- The fields of a record of switches, as far as they were given. -/
structure GivenSwitches where
  csmaCa : Option Bool := none
  ackTimeout : Option Bool := none
  delayedTrx : Option Bool := none
  ifs : Option Bool := none

def GivenSwitches.fields : List (Decoder.Field GivenSwitches) :=
  [.of "csma_ca" Decoder.bool csmaCa fun b p => { p with csmaCa := some b },
    .of "ack_timeout" Decoder.bool ackTimeout fun b p => { p with ackTimeout := some b },
    .of "delayed_trx" Decoder.bool delayedTrx fun b p => { p with delayedTrx := some b },
    .of "ifs" Decoder.bool ifs fun b p => { p with ifs := some b }]

namespace FeatureSet

def json (features : FeatureSet) : Json :=
  .object [("csma_ca", .bool features.csmaCa), ("ack_timeout", .bool features.ackTimeout),
    ("delayed_trx", .bool features.delayedTrx), ("ifs", .bool features.ifs)]

/-- A set of features as a record, of which every field must be given. -/
def record : Decoder.Record GivenSwitches FeatureSet where
  name := "FeatureSet"
  fields := GivenSwitches.fields
  empty := {}
  finish missing p := do
    let csmaCa ← needed missing 0 "csma_ca" p.csmaCa
    let ackTimeout ← needed missing 1 "ack_timeout" p.ackTimeout
    let delayedTrx ← needed missing 2 "delayed_trx" p.delayedTrx
    let ifs ← needed missing 3 "ifs" p.ifs
    return ⟨csmaCa, ackTimeout, delayedTrx, ifs⟩

def decoder : Decoder FeatureSet := record.decode

def outline (features : FeatureSet) : Outline :=
  .record "FeatureSet"
    [("csma_ca", .bool features.csmaCa), ("ack_timeout", .bool features.ackTimeout),
      ("delayed_trx", .bool features.delayedTrx), ("ifs", .bool features.ifs)]

end FeatureSet

namespace Switches

def json (switches : Switches) : Json :=
  .object [("csma_ca", .bool switches.csmaCa), ("ack_timeout", .bool switches.ackTimeout),
    ("delayed_trx", .bool switches.delayedTrx), ("ifs", .bool switches.ifs)]

def complete (compiled : FeatureSet) (p : GivenSwitches) : Switches :=
  let fallback := Switches.default compiled
  ⟨p.csmaCa.getD fallback.csmaCa, p.ackTimeout.getD fallback.ackTimeout,
    p.delayedTrx.getD fallback.delayedTrx, p.ifs.getD fallback.ifs⟩

/-- Switches as a record; those that are not given are as the build has them. -/
def record (compiled : FeatureSet) : Decoder.Record GivenSwitches Switches where
  name := "FeatureConfig"
  fields := GivenSwitches.fields
  empty := {}
  finish _ p := .ok (complete compiled p)

def decoder (compiled : FeatureSet) : Decoder Switches := (record compiled).decode

def outline (switches : Switches) : Outline :=
  .record "FeatureConfig"
    [("csma_ca", .bool switches.csmaCa), ("ack_timeout", .bool switches.ackTimeout),
      ("delayed_trx", .bool switches.delayedTrx), ("ifs", .bool switches.ifs)]

end Switches

end MacDispatch
