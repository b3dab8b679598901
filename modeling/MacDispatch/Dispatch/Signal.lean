import MacDispatch.Log.Event
import MacDispatch.Radio.Frame
import MacDispatch.Radio.Priority
import MacDispatch.Radio.Feature
import MacDispatch.Text.Outline

/-! # Signals

What is passed to the candidates of a channel, and what they may answer. Both depend on the
channel: a candidate on a consent channel says yes or no, one on a broadcast channel says
nothing. -/

namespace MacDispatch

/-- The continuation of a deferred transmission, which is told about its failure later. -/
inductive Callback
  /-- Reports the failure in the log. -/
  | report
  | labelled (label : String)
deriving DecidableEq, Repr

def Callback.events (callback : Callback) (frame : Frame) (error : TxError) : List Event :=
  match callback with
  | report =>
    let length := frame.psduLength?.map fun n => Text.Outline.nat n.toNat
    [{ level := .info
       target := "radio_mac::probe"
       message := "Transmit failed notification"
       fields := [("psdu_length", .text (Text.Outline.option length).inline),
        ("ack_requested", .flag frame.ackRequested), ("error", .text error.name)] }]
  | labelled _ => []

/-- A request that an operation end. -/
structure Termination where
  level : TermLevel
  originator : Originator
deriving DecidableEq, Repr

/-- A transmission about to be prepared. -/
structure Attempt where
  frame : Frame
  cca : Bool
  notify : Callback
deriving DecidableEq, Repr

structure Preparation where
  frame : Frame
  ready : Bool
deriving DecidableEq, Repr

structure FailedAttempt where
  frame : Frame
  error : TxError
deriving DecidableEq, Repr

structure PriorityChange where
  old : Priority
  new : Priority
deriving DecidableEq, Repr

/-- What is passed to the candidates of a channel. -/
def Channel.Payload : Channel → Type
  | terminate => Termination
  | preTransmission => Attempt
  | transmissionReady => Preparation
  | transmitted | txStarted | rxStarted => Frame
  | txFailed => FailedAttempt
  | rxAckStarted => Unit
  | prioChanged => PriorityChange

structure Signal where
  channel : Channel
  payload : channel.Payload

def Policy.Answer : Policy → Type
  | consent => Bool
  | broadcast => Unit

abbrev Channel.Answer (channel : Channel) : Type := channel.policy.Answer

namespace Policy.Answer

def refuses : {policy : Policy} → policy.Answer → Bool
  | .consent, answer => Bool.not answer
  | .broadcast, _ => false

/-- The verdict that the answer carries, if the policy asks for one. -/
def verdict? : {policy : Policy} → policy.Answer → Option Bool
  | .consent, answer => some answer
  | .broadcast, _ => none

/-- The answer that carries a verdict as far as the policy asks for one. -/
def ofVerdict : (policy : Policy) → Bool → policy.Answer
  | .consent, verdict => verdict
  | .broadcast, _ => ()

theorem refuses_iff {policy : Policy} (answer : policy.Answer) :
    answer.refuses = true ↔ answer.verdict? = some false := by
  cases policy with
  | consent => cases answer <;> decide
  | broadcast => simp [refuses, verdict?]

end Policy.Answer

end MacDispatch
