import MacDispatch.Radio.Channel
import MacDispatch.Radio.Names

/-! # Features

The parts of the radio that take part in channels. Four of them can be switched off; the guard
against endless transmissions is always there. Features are ranked, and a higher one is asked
first. -/

namespace MacDispatch

/-- Which of the optional features are on. -/
structure FeatureSet where
  csmaCa : Bool
  ackTimeout : Bool
  delayedTrx : Bool
  ifs : Bool
deriving DecidableEq, Repr

namespace FeatureSet

def all : FeatureSet := ⟨true, true, true, true⟩

def none : FeatureSet := ⟨false, false, false, false⟩

def count (features : FeatureSet) : Nat :=
  [features.csmaCa, features.ackTimeout, features.delayedTrx, features.ifs].count true

def Subset (a b : FeatureSet) : Prop :=
  (a.csmaCa → b.csmaCa) ∧ (a.ackTimeout → b.ackTimeout) ∧ (a.delayedTrx → b.delayedTrx) ∧
    (a.ifs → b.ifs)

end FeatureSet

/-- The features, in order of rank. -/
inductive Feature
  /-- Collision avoidance before a transmission. -/
  | csmaCa
  /-- Waiting for an acknowledgement. -/
  | ackTimeout
  /-- Operations that begin at a set time. -/
  | delayedTrx
  /-- Spacing between frames. -/
  | ifs
  /-- The guard against endless transmissions. -/
  | txTimeout
deriving DecidableEq, Repr

namespace Feature

def name : Feature → String
  | csmaCa => "csma_ca"
  | ackTimeout => "ack_timeout"
  | delayedTrx => "delayed_trx"
  | ifs => "ifs"
  | txTimeout => "tx_timeout"

/-- Every feature, the highest rank first. -/
def all : List Feature := [csmaCa, ackTimeout, delayedTrx, ifs, txTimeout]

instance : Vocabulary Feature where
  noun := "feature"
  all := all
  name := name
  tag
    | csmaCa => "CsmaCa"
    | ackTimeout => "AckTimeout"
    | delayedTrx => "DelayedTrx"
    | ifs => "Ifs"
    | txTimeout => "TxTimeout"
  mem_all a := by cases a <;> decide
  name_injective a b := by cases a <;> cases b <;> decide

/-- The rank of a feature; zero is the highest. -/
def rank : Feature → Nat
  | csmaCa => 0
  | ackTimeout => 1
  | delayedTrx => 2
  | ifs => 3
  | txTimeout => 4

/-- Features of one rank are one feature. -/
theorem rank_injective {a b : Feature} (h : a.rank = b.rank) : a = b := by
  cases a <;> cases b <;> simp_all [rank]

/-- Whether a feature is asked no later than another. -/
def le (a b : Feature) : Bool := a.rank ≤ b.rank

/-- Features in order of rank. -/
def sort (features : List Feature) : List Feature := features.mergeSort le

def isOptional (feature : Feature) : Bool := feature != txTimeout

def isEnabledIn (feature : Feature) (features : FeatureSet) : Bool :=
  match feature with
  | csmaCa => features.csmaCa
  | ackTimeout => features.ackTimeout
  | delayedTrx => features.delayedTrx
  | ifs => features.ifs
  | txTimeout => true

def channels : Feature → List Channel
  | csmaCa => [.terminate, .preTransmission, .txFailed, .txStarted, .prioChanged]
  | ackTimeout => [.terminate, .transmitted, .txFailed, .txStarted, .rxAckStarted]
  | delayedTrx => [.terminate, .rxStarted]
  | ifs => [.terminate, .preTransmission, .transmitted]
  | txTimeout => [.terminate, .transmissionReady]

def participatesIn (feature : Feature) (channel : Channel) : Bool :=
  channel ∈ feature.channels

def originator : Feature → Originator
  | csmaCa => .csmaCa
  | ackTimeout => .ackTimeout
  | delayedTrx => .delayedTrx
  | ifs => .ifs
  | txTimeout => .txTimeout

/-- The features that take part in a channel, of those that are on, in order of rank. -/
def candidates (channel : Channel) (features : FeatureSet) : List Feature :=
  all.filter fun feature => feature.isEnabledIn features && feature.participatesIn channel

end Feature

end MacDispatch
