import MacDispatch.Vocabulary

/-! # Channels

A channel is a point at which features may take part in what the radio does. On a consent channel
each of them may refuse; on a broadcast channel all of them are told. -/

namespace MacDispatch

/-- How the answers on a channel are combined. -/
inductive Policy
  /-- The first refusal ends the dispatch. -/
  | consent
  /-- Every candidate is told. -/
  | broadcast
deriving DecidableEq, Repr

namespace Policy

def name : Policy → String
  | consent => "and_short_circuit"
  | broadcast => "fan_out"

def isVeto (policy : Policy) : Bool := policy == consent

instance : Vocabulary Policy where
  noun := "policy"
  all := [consent, broadcast]
  name := name
  tag
    | consent => "AndShortCircuit"
    | broadcast => "FanOut"
  mem_all a := by cases a <;> decide
  name_injective a b := by cases a <;> cases b <;> decide

end Policy

/-- What a refusal brings about. -/
inductive Meaning
  | refusal
  | deferral
  | consumption
  | veto
deriving DecidableEq, Repr

namespace Meaning

def name : Meaning → String
  | refusal => "refusal"
  | deferral => "deferral"
  | consumption => "consumption"
  | veto => "veto"

instance : Vocabulary Meaning where
  noun := "meaning"
  all := [refusal, deferral, consumption, veto]
  name := name
  tag
    | refusal => "Refusal"
    | deferral => "Deferral"
    | consumption => "Consumption"
    | veto => "Veto"
  mem_all a := by cases a <;> decide
  name_injective a b := by cases a <;> cases b <;> decide

end Meaning

/-- The points at which features take part. -/
inductive Channel
  /-- Someone asks for the operation in progress to end. -/
  | terminate
  | preTransmission
  /-- The preparation has ended, well or not. -/
  | transmissionReady
  /-- A frame has been sent. -/
  | transmitted
  | txFailed
  /-- A transmission is on the air. -/
  | txStarted
  /-- A frame is arriving. -/
  | rxStarted
  /-- An acknowledgement is arriving. -/
  | rxAckStarted
  | prioChanged
deriving DecidableEq, Repr

namespace Channel

def name : Channel → String
  | terminate => "terminate"
  | preTransmission => "pre_transmission"
  | transmissionReady => "transmission_ready"
  | transmitted => "transmitted"
  | txFailed => "tx_failed"
  | txStarted => "tx_started"
  | rxStarted => "rx_started"
  | rxAckStarted => "rx_ack_started"
  | prioChanged => "prio_changed"

/-- Every channel, in the order of layouts. -/
def all : List Channel :=
  [terminate, preTransmission, transmissionReady, transmitted, txFailed, txStarted, rxStarted,
    rxAckStarted, prioChanged]

instance : Vocabulary Channel where
  noun := "channel"
  all := all
  name := name
  tag
    | terminate => "Terminate"
    | preTransmission => "PreTransmission"
    | transmissionReady => "TransmissionReady"
    | transmitted => "Transmitted"
    | txFailed => "TxFailed"
    | txStarted => "TxStarted"
    | rxStarted => "RxStarted"
    | rxAckStarted => "RxAckStarted"
    | prioChanged => "PrioChanged"
  mem_all a := by cases a <;> decide
  name_injective a b := by cases a <;> cases b <;> decide

def policy : Channel → Policy
  | terminate | preTransmission | txFailed | txStarted => .consent
  | transmissionReady | transmitted | rxStarted | rxAckStarted | prioChanged => .broadcast

/-- What a refusal on the channel brings about, where one is possible. -/
def meaning? : Channel → Option Meaning
  | terminate => some .refusal
  | preTransmission => some .deferral
  | txFailed => some .consumption
  | txStarted => some .veto
  | _ => none

/-- A refusal has a meaning exactly where it is possible. -/
theorem isSome_meaning?_iff (c : Channel) : c.meaning?.isSome ↔ c.policy = .consent := by
  cases c <;> decide

end Channel

end MacDispatch
