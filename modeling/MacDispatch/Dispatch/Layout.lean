import MacDispatch.Radio.Encoding

/-! # Layouts

The layout of a channel says how its answers are combined and who is asked, in order. -/

namespace MacDispatch

open Text (Outline)

structure ChannelLayout where
  channel : Channel
  policy : Policy
  meaning? : Option Meaning
  candidates : List Feature
deriving DecidableEq, Repr

namespace ChannelLayout

def ofFeatures (channel : Channel) (features : List Feature) : ChannelLayout :=
  ⟨channel, channel.policy, channel.meaning?, features⟩

def members (layout : ChannelLayout) : List (String × Json) :=
  [("channel", Vocabulary.json layout.channel), ("policy", Vocabulary.json layout.policy),
    ("veto_meaning", (layout.meaning?.map Vocabulary.json).getD .null),
    ("candidates", .array (layout.candidates.map Vocabulary.json))]

def json (layout : ChannelLayout) : Json := .object layout.members

/-- The fields of a layout, as far as they were given. -/
structure Given where
  channel : Option Channel := none
  policy : Option Policy := none
  meaning : Option (Option Meaning) := none
  candidates : Option (List Feature) := none

/-- A meaning may be left out of an object, but not of an array. -/
private def meaningOf (missing : Nat → String → Mismatch) (p : Given) :
    Except Mismatch (Option Meaning) :=
  match p.meaning, missing 2 "veto_meaning" with
  | some meaning, _ => .ok meaning
  | none, .missing _ => .ok none
  | none, mismatch => .error mismatch

def record : Decoder.Record Given ChannelLayout where
  name := "ChannelLayout"
  fields := [
    .of "channel" (Decoder.variant Channel) Given.channel fun c p => { p with channel := some c },
    .of "policy" (Decoder.variant Policy) Given.policy fun a p => { p with policy := some a },
    .of "veto_meaning" (Decoder.option (Decoder.variant Meaning)) Given.meaning fun m p =>
      { p with meaning := some m },
    .of "candidates" (Decoder.list (Decoder.variant Feature)) Given.candidates fun l p =>
      { p with candidates := some l }]
  empty := {}
  finish missing p := do
    let channel ← needed missing 0 "channel" p.channel
    let policy ← needed missing 1 "policy" p.policy
    let meaning ← meaningOf missing p
    let candidates ← needed missing 3 "candidates" p.candidates
    return ⟨channel, policy, meaning, candidates⟩

def decoder : Decoder ChannelLayout := record.decode

def outline (layout : ChannelLayout) : Outline :=
  .record "ChannelLayout"
    [("channel", Vocabulary.outline layout.channel), ("policy", Vocabulary.outline layout.policy),
      ("veto_meaning", .option (layout.meaning?.map Vocabulary.outline)),
      ("candidates", .list (layout.candidates.map Vocabulary.outline))]

end ChannelLayout

end MacDispatch
