import MacDispatch.Vocabulary

/-! # Names on the radio

Who asks for an operation to end, how firmly, and why a transmission failed. -/

namespace MacDispatch

/-- How firmly an operation in progress is asked to end. -/
inductive TermLevel
  /-- The operation may go on. -/
  | none
  /-- Operations of the standard are to end. -/
  | ieee802154
deriving DecidableEq, Repr

namespace TermLevel

def name : TermLevel → String
  | none => "none"
  | ieee802154 => "ieee802154"

/-- Whether an operation in progress ends at this level. -/
def abortsInProgress (level : TermLevel) : Bool := level == ieee802154

instance : Vocabulary TermLevel where
  noun := "TermLevel"
  all := [none, ieee802154]
  name := name
  tag
    | none => "None"
    | ieee802154 => "Ieee802154"
  mem_all a := by cases a <;> decide
  name_injective a b := by cases a <;> cases b <;> decide

end TermLevel

inductive Originator
  | higherLayer
  | core
  | rsch
  | csmaCa
  | delayedTrx
  | ifs
  | ackTimeout
  | txTimeout
deriving DecidableEq, Repr

namespace Originator

def name : Originator → String
  | higherLayer => "higher_layer"
  | core => "core"
  | rsch => "rsch"
  | csmaCa => "csma_ca"
  | delayedTrx => "delayed_trx"
  | ifs => "ifs"
  | ackTimeout => "ack_timeout"
  | txTimeout => "tx_timeout"

instance : Vocabulary Originator where
  noun := "ReqOriginator"
  all := [higherLayer, core, rsch, csmaCa, delayedTrx, ifs, ackTimeout, txTimeout]
  name := name
  tag
    | higherLayer => "HigherLayer"
    | core => "Core"
    | rsch => "Rsch"
    | csmaCa => "CsmaCa"
    | delayedTrx => "DelayedTrx"
    | ifs => "Ifs"
    | ackTimeout => "AckTimeout"
    | txTimeout => "TxTimeout"
  mem_all a := by cases a <;> decide
  name_injective a b := by cases a <;> cases b <;> decide

end Originator

inductive TxError
  | none
  | busyChannel
  | invalidAck
  | noMem
  | timeslotEnded
  | noAck
  | aborted
  | timeslotDenied
deriving DecidableEq, Repr

namespace TxError

def name : TxError → String
  | none => "none"
  | busyChannel => "busy_channel"
  | invalidAck => "invalid_ack"
  | noMem => "no_mem"
  | timeslotEnded => "timeslot_ended"
  | noAck => "no_ack"
  | aborted => "aborted"
  | timeslotDenied => "timeslot_denied"

instance : Vocabulary TxError where
  noun := "TxError"
  all := [none, busyChannel, invalidAck, noMem, timeslotEnded, noAck, aborted, timeslotDenied]
  name := name
  tag
    | none => "None"
    | busyChannel => "BusyChannel"
    | invalidAck => "InvalidAck"
    | noMem => "NoMem"
    | timeslotEnded => "TimeslotEnded"
    | noAck => "NoAck"
    | aborted => "Aborted"
    | timeslotDenied => "TimeslotDenied"
  mem_all a := by cases a <;> decide
  name_injective a b := by cases a <;> cases b <;> decide

end TxError

end MacDispatch
