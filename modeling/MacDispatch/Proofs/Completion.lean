import MacDispatch.Dispatch.Layout
import MacDispatch.Proofs.Members
import MacDispatch.Proofs.Precedence
import Mathlib.Data.List.Nodup

/-! # Completion

Settings and layouts are read from JSON. Main statement: what was written is read back, and an
object that gives values to some settings is read as these, with the usual values for all others,
whatever else is in it and in whichever order. -/

namespace MacDispatch

open List
open Setting (Assignment)

/-! ## Layouts -/

theorem Decoder.variant_json {α : Type} [Vocabulary α] (intake : Intake) (a : α) :
    variant α intake (.ofJson (Vocabulary.json a)) = .ok a :=
  variant_string_eq_ok_iff.mpr rfl

theorem Decoder.option_variant_json {α : Type} [Vocabulary α] (intake : Intake) (a? : Option α) :
    option (variant α) intake (.ofJson ((a?.map Vocabulary.json).getD .null)) = .ok a? := by
  cases a? with
  | none => rfl
  | some a =>
    have ha := variant_json intake a
    rw [Vocabulary.json, Reading.ofJson] at ha
    rw [Option.map_some, Option.getD_some, Vocabulary.json, Reading.ofJson, option, ha]
    · rfl
    · simp
    · simp

namespace ChannelLayout

open Decoder.Field (spares_of)
open Decoder.Record (mem_of_field? get_of_mem)

theorem shows :
    record.Shows "channel" (Decoder.variant Channel) Given.channel ∧
      record.Shows "policy" (Decoder.variant Policy) Given.policy ∧
      record.Shows "veto_meaning" (Decoder.option (Decoder.variant Meaning)) Given.meaning ∧
      record.Shows "candidates" (Decoder.list (Decoder.variant Feature)) Given.candidates := by
  refine ⟨⟨⟨_, rfl, fun _ _ => rfl⟩, ?_⟩, ⟨⟨_, rfl, fun _ _ => rfl⟩, ?_⟩,
    ⟨⟨_, rfl, fun _ _ => rfl⟩, ?_⟩, ⟨⟨_, rfl, fun _ _ => rfl⟩, ?_⟩⟩ <;>
    simp only [record, forall_mem_cons, not_mem_nil, false_implies, implies_true, and_true]
  · exact ⟨.inl rfl, .inr (spares_of fun _ _ => rfl), .inr (spares_of fun _ _ => rfl),
      .inr (spares_of fun _ _ => rfl)⟩
  · exact ⟨.inr (spares_of fun _ _ => rfl), .inl rfl, .inr (spares_of fun _ _ => rfl),
      .inr (spares_of fun _ _ => rfl)⟩
  · exact ⟨.inr (spares_of fun _ _ => rfl), .inr (spares_of fun _ _ => rfl), .inl rfl,
      .inr (spares_of fun _ _ => rfl)⟩
  · exact ⟨.inr (spares_of fun _ _ => rfl), .inr (spares_of fun _ _ => rfl),
      .inr (spares_of fun _ _ => rfl), .inl rfl⟩

theorem orderly_record : record.Orderly := by
  obtain ⟨hchannel, hpolicy, hmeaning, hcandidates⟩ := shows
  simp only [Decoder.Record.Orderly, record, forall_mem_cons, not_mem_nil, false_implies,
    implies_true, and_true]
  exact ⟨⟨_, _, _, hchannel⟩, ⟨_, _, _, hpolicy⟩, ⟨_, _, _, hmeaning⟩, ⟨_, _, _, hcandidates⟩⟩

variable {layout : ChannelLayout} {members : List (String × Json)}

theorem nodup_of_perm (h : members ~ layout.members) : (members.map Prod.fst).Nodup := by
  have hkeys : layout.members.map Prod.fst = ["channel", "policy", "veto_meaning", "candidates"] :=
    rfl
  rw [(h.map Prod.fst).nodup_iff, hkeys]
  decide

theorem exists_keepMembers (h : members ~ layout.members) (intake : Intake) :
    ∃ q, record.keepMembers intake (Reading.ofMembers members) {} = .ok q := by
  apply Decoder.Record.exists_keepMembers orderly_record (nodup_of_perm h)
  · intro key _ field hfield
    have hmem := (mem_of_field? hfield).1
    simp only [record, mem_cons, not_mem_nil, or_false] at hmem
    rcases hmem with rfl | rfl | rfl | rfl <;> rfl
  · intro key value hmem field hfield p
    obtain ⟨hmem', rfl⟩ := mem_of_field? hfield
    rw [h.mem_iff] at hmem
    simp only [record, mem_cons, not_mem_nil, or_false] at hmem'
    simp only [ChannelLayout.members, mem_cons, not_mem_nil, or_false, Prod.mk.injEq] at hmem
    rcases hmem' with rfl | rfl | rfl | rfl <;> simp [Decoder.Field.of] at hmem <;> subst hmem
    · exact ⟨_, Decoder.Field.keep_of_eq_ok_iff.mpr ⟨_, Decoder.variant_json intake _, rfl⟩⟩
    · exact ⟨_, Decoder.Field.keep_of_eq_ok_iff.mpr ⟨_, Decoder.variant_json intake _, rfl⟩⟩
    · exact ⟨_, Decoder.Field.keep_of_eq_ok_iff.mpr
        ⟨_, Decoder.option_variant_json intake _, rfl⟩⟩
    · exact ⟨_, Decoder.Field.keep_of_eq_ok_iff.mpr
        ⟨_, Decoder.list_ofJson (Decoder.variant_json intake) _, rfl⟩⟩

/-- A layout is read as it was written, in whichever order its members come. -/
theorem decoder_of_perm (h : members ~ layout.members) (intake : Intake) :
    decoder intake (.ofJson (.object members)) = .ok layout := by
  obtain ⟨hchannel, hpolicy, hmeaning, hcandidates⟩ := shows
  obtain ⟨q, hq⟩ := exists_keepMembers h intake
  have hgiven {β : Type} {name : String} {decode : Decoder β} {get : Given → Option β} {b : β}
      {value : Json} (hshows : record.Shows name decode get)
      (hmem : (name, value) ∈ layout.members) (hread : decode intake (.ofJson value) = .ok b) :
      get q = some b := by
    obtain ⟨b', hread', hget⟩ := get_of_mem hshows (nodup_of_perm h) hq (h.mem_iff.mpr hmem)
    rwa [← Except.ok.inj (hread.symm.trans hread')] at hget
  have hchannel := hgiven hchannel (by simp [ChannelLayout.members])
    (Decoder.variant_json intake layout.channel)
  have hpolicy := hgiven hpolicy (by simp [ChannelLayout.members])
    (Decoder.variant_json intake layout.policy)
  have hmeaning := hgiven hmeaning (by simp [ChannelLayout.members])
    (Decoder.option_variant_json intake layout.meaning?)
  have hcandidates := hgiven hcandidates (by simp [ChannelLayout.members])
    (Decoder.list_ofJson (Decoder.variant_json intake) layout.candidates)
  obtain ⟨_, _, _, _⟩ := q
  cases hchannel
  cases hpolicy
  cases hmeaning
  cases hcandidates
  rw [Reading.ofJson]
  exact Decoder.Record.decode_object hq rfl

/-- The value is the layout as it is written, with its members in some order. -/
def WrittenAs (layout : ChannelLayout) (value : Json) : Prop :=
  ∃ members, value = .object members ∧ members ~ layout.members

theorem writtenAs_json (layout : ChannelLayout) : layout.WrittenAs layout.json :=
  ⟨_, rfl, .refl _⟩

theorem WrittenAs.decoder {value : Json} (h : layout.WrittenAs value) (intake : Intake) :
    decoder intake (.ofJson value) = .ok layout := by
  obtain ⟨members, rfl, hperm⟩ := h
  exact decoder_of_perm hperm intake

end ChannelLayout

/-! ## What objects give -/

def Setting.all : List Setting := [csmaCa, ackTimeout, delayedTrx, ifs, level, format]

theorem Setting.mem_all (s : Setting) : s ∈ all := by
  cases s <;> decide

def Setting.json : (s : Setting) → s.Value → Json
  | csmaCa, b | ackTimeout, b | delayedTrx, b | ifs, b => .bool b
  | level, t | format, t => .string t

namespace Json

/-- Members with distinct keys give values to just these settings of a section. Beside them there
may be any others. -/
structure GivesIn (home : String) (members : List (String × Json)) (given : Assignment) : Prop where
  nodup : (members.map Prod.fst).Nodup
  mem_iff : ∀ s : Setting, s.home = home → ∀ value,
    (s.key, value) ∈ members ↔ ∃ held, given s = some held ∧ value = s.json held

/-- Members with distinct keys are sections that give values to just these settings, and any
others. -/
structure Gives (members : List (String × Json)) (given : Assignment) : Prop where
  nodup : (members.map Prod.fst).Nodup
  sections : ∀ s : Setting, ∀ value, (s.home, value) ∈ members →
    ∃ inner, value = .object inner ∧ GivesIn s.home inner given
  absent : ∀ s : Setting, s.home ∉ members.map Prod.fst → given s = none

/-- Members that differ in their order, and in keys that are not known. -/
def Alike (known : List String) (members members' : List (String × Json)) : Prop :=
  members.filter (·.1 ∈ known) ~ members'.filter (·.1 ∈ known)

theorem givesIn_only (s : Setting) (value : s.Value) :
    GivesIn s.home [(s.key, s.json value)] (s.only value) where
  nodup := nodup_singleton _
  mem_iff t ht held := by
    by_cases hts : t = s
    · subst hts
      rw [Setting.only_self]
      simp
    · have hkey : t.key ≠ s.key := fun he => hts (Setting.eq_of_home_of_key ht he)
      rw [Setting.only_of_ne hts]
      simp [hkey]

theorem givesIn_nil {home : String} {s : Setting} (h : s.home ≠ home) (value : s.Value) :
    GivesIn home [] (s.only value) where
  nodup := nodup_nil
  mem_iff t ht held := by
    have hts : t ≠ s := fun he => h (he ▸ ht)
    rw [Setting.only_of_ne hts]
    simp

end Json

/-! ## Sections -/

namespace Decoder.Record

open Json (GivesIn)

variable {P α β : Type} {record : Record P α} {intake : Intake} {home : String}
  {members : List (String × Json)} {given : Assignment} {q : P}

/-- The fields of the record are settings of a section, each with a place of its own. -/
structure Holds (record : Record P α) (home : String) : Prop where
  orderly : record.Orderly
  fresh : ∀ field ∈ record.fields, field.given record.empty = false
  setting : ∀ field ∈ record.fields, ∃ s : Setting, s.home = home ∧ field.name = s.key ∧
    ∀ intake held p, ∃ q, field.keep intake (.ofJson (s.json held)) p = .ok q

theorem Holds.exists_keepMembers (h : record.Holds home) (hgives : GivesIn home members given)
    (intake : Intake) :
    ∃ q, record.keepMembers intake (Reading.ofMembers members) record.empty = .ok q := by
  apply Record.exists_keepMembers h.orderly hgives.nodup
  · intro key _ field hfield
    exact h.fresh field (mem_of_field? hfield).1
  · intro key value hmem field hfield p
    obtain ⟨hmem', rfl⟩ := mem_of_field? hfield
    obtain ⟨s, hhome, hname, hkeep⟩ := h.setting field hmem'
    rw [hname] at hmem
    obtain ⟨held, -, rfl⟩ := (hgives.mem_iff s hhome value).mp hmem
    exact hkeep intake held p

/-- A setting shows as it was given. -/
theorem get_eq_given (s : Setting) {decode : Decoder s.Value} {get : P → Option s.Value}
    (hshows : record.Shows s.key decode get) (hgives : GivesIn s.home members given)
    (hdecode : ∀ held, decode intake (.ofJson (s.json held)) = .ok held)
    (hempty : get record.empty = none)
    (hkeep : record.keepMembers intake (Reading.ofMembers members) record.empty = .ok q) :
    get q = given s := by
  cases hs : given s with
  | none =>
    have hname : s.key ∉ members.map Prod.fst := by
      intro hmem
      obtain ⟨⟨key, value⟩, hmem, rfl : key = s.key⟩ := mem_map.mp hmem
      obtain ⟨held, hheld, -⟩ := (hgives.mem_iff s rfl value).mp hmem
      cases hs.symm.trans hheld
    rw [get_of_notMem hshows hkeep hname, hempty]
  | some held =>
    have hmem : (s.key, s.json held) ∈ members :=
      (hgives.mem_iff s rfl _).mpr ⟨held, hs, rfl⟩
    obtain ⟨b, hread, hget⟩ := get_of_mem hshows hgives.nodup hkeep hmem
    rw [hdecode] at hread
    cases hread
    exact hget

end Decoder.Record

open Decoder.Field (spares_of)
open Decoder.Record (get_eq_given)
open Settings (assigned)

namespace Switches

theorem shows (compiled : FeatureSet) :
    (record compiled).Shows "csma_ca" Decoder.bool GivenSwitches.csmaCa ∧
      (record compiled).Shows "ack_timeout" Decoder.bool GivenSwitches.ackTimeout ∧
      (record compiled).Shows "delayed_trx" Decoder.bool GivenSwitches.delayedTrx ∧
      (record compiled).Shows "ifs" Decoder.bool GivenSwitches.ifs := by
  refine ⟨⟨⟨_, rfl, fun _ _ => rfl⟩, ?_⟩, ⟨⟨_, rfl, fun _ _ => rfl⟩, ?_⟩,
    ⟨⟨_, rfl, fun _ _ => rfl⟩, ?_⟩, ⟨⟨_, rfl, fun _ _ => rfl⟩, ?_⟩⟩ <;>
    simp only [record, GivenSwitches.fields, forall_mem_cons, not_mem_nil, false_implies,
      implies_true, and_true]
  · exact ⟨.inl rfl, .inr (spares_of fun _ _ => rfl), .inr (spares_of fun _ _ => rfl),
      .inr (spares_of fun _ _ => rfl)⟩
  · exact ⟨.inr (spares_of fun _ _ => rfl), .inl rfl, .inr (spares_of fun _ _ => rfl),
      .inr (spares_of fun _ _ => rfl)⟩
  · exact ⟨.inr (spares_of fun _ _ => rfl), .inr (spares_of fun _ _ => rfl), .inl rfl,
      .inr (spares_of fun _ _ => rfl)⟩
  · exact ⟨.inr (spares_of fun _ _ => rfl), .inr (spares_of fun _ _ => rfl),
      .inr (spares_of fun _ _ => rfl), .inl rfl⟩

theorem holds_record (compiled : FeatureSet) : (record compiled).Holds "features" := by
  obtain ⟨hcsmaCa, hackTimeout, hdelayedTrx, hifs⟩ := shows compiled
  refine ⟨?_, ?_, ?_⟩ <;>
    simp only [Decoder.Record.Orderly, record, GivenSwitches.fields, forall_mem_cons, not_mem_nil,
      false_implies, implies_true, and_true]
  · exact ⟨⟨_, _, _, hcsmaCa⟩, ⟨_, _, _, hackTimeout⟩, ⟨_, _, _, hdelayedTrx⟩, ⟨_, _, _, hifs⟩⟩
  · exact ⟨rfl, rfl, rfl, rfl⟩
  · exact ⟨⟨.csmaCa, rfl, rfl, fun _ _ _ => ⟨_, rfl⟩⟩,
      ⟨.ackTimeout, rfl, rfl, fun _ _ _ => ⟨_, rfl⟩⟩,
      ⟨.delayedTrx, rfl, rfl, fun _ _ _ => ⟨_, rfl⟩⟩, ⟨.ifs, rfl, rfl, fun _ _ _ => ⟨_, rfl⟩⟩⟩

/-- A section of switches is read as they are given, and else as the build has them. -/
theorem decoder_of_givesIn {members : List (String × Json)} {given : Assignment}
    (h : Json.GivesIn "features" members given) (compiled : FeatureSet) (intake : Intake) :
    decoder compiled intake (.ofJson (.object members)) =
      .ok (assigned (.default compiled) given).features := by
  obtain ⟨hcsmaCa, hackTimeout, hdelayedTrx, hifs⟩ := shows compiled
  obtain ⟨q, hq⟩ := (holds_record compiled).exists_keepMembers h intake
  have hcsmaCa : q.csmaCa = given .csmaCa := get_eq_given .csmaCa hcsmaCa h (fun _ => rfl) rfl hq
  have hackTimeout : q.ackTimeout = given .ackTimeout :=
    get_eq_given .ackTimeout hackTimeout h (fun _ => rfl) rfl hq
  have hdelayedTrx : q.delayedTrx = given .delayedTrx :=
    get_eq_given .delayedTrx hdelayedTrx h (fun _ => rfl) rfl hq
  have hifs : q.ifs = given .ifs := get_eq_given .ifs hifs h (fun _ => rfl) rfl hq
  rw [Reading.ofJson]
  refine Decoder.Record.decode_object hq ?_
  show Except.ok (complete compiled q) = _
  rw [complete, hcsmaCa, hackTimeout, hdelayedTrx, hifs]
  rfl

end Switches

namespace Logging

theorem shows : record.Shows "level" Decoder.string Given.level ∧
    record.Shows "format" Decoder.string Given.format := by
  refine ⟨⟨⟨_, rfl, fun _ _ => rfl⟩, ?_⟩, ⟨⟨_, rfl, fun _ _ => rfl⟩, ?_⟩⟩ <;>
    simp only [record, forall_mem_cons, not_mem_nil, false_implies, implies_true, and_true]
  · exact ⟨.inl rfl, .inr (spares_of fun _ _ => rfl)⟩
  · exact ⟨.inr (spares_of fun _ _ => rfl), .inl rfl⟩

theorem holds_record : record.Holds "logging" := by
  obtain ⟨hlevel, hformat⟩ := shows
  refine ⟨?_, ?_, ?_⟩ <;>
    simp only [Decoder.Record.Orderly, record, forall_mem_cons, not_mem_nil, false_implies,
      implies_true, and_true]
  · exact ⟨⟨_, _, _, hlevel⟩, ⟨_, _, _, hformat⟩⟩
  · exact ⟨rfl, rfl⟩
  · exact ⟨⟨.level, rfl, rfl, fun _ _ _ => ⟨_, rfl⟩⟩,
      ⟨.format, rfl, rfl, fun _ _ _ => ⟨_, rfl⟩⟩⟩

/-- A section about the log is read as it is given, and else as usual. -/
theorem decoder_of_givesIn {members : List (String × Json)} {given : Assignment}
    (h : Json.GivesIn "logging" members given) (compiled : FeatureSet) (intake : Intake) :
    decoder intake (.ofJson (.object members)) =
      .ok (assigned (.default compiled) given).logging := by
  obtain ⟨hlevel, hformat⟩ := shows
  obtain ⟨q, hq⟩ := holds_record.exists_keepMembers h intake
  have hlevel : q.level = given .level := get_eq_given .level hlevel h (fun _ => rfl) rfl hq
  have hformat : q.format = given .format := get_eq_given .format hformat h (fun _ => rfl) rfl hq
  rw [Reading.ofJson]
  refine Decoder.Record.decode_object hq ?_
  show Except.ok (complete q) = _
  rw [complete, hlevel, hformat]
  rfl

end Logging

/-! ## Whole objects -/

namespace Settings

variable {members : List (String × Json)} {given : Assignment}

theorem shows (compiled : FeatureSet) :
    (record compiled).Shows "features" (Switches.decoder compiled) Given.features ∧
      (record compiled).Shows "logging" Logging.decoder Given.logging := by
  refine ⟨⟨⟨_, rfl, fun _ _ => rfl⟩, ?_⟩, ⟨⟨_, rfl, fun _ _ => rfl⟩, ?_⟩⟩ <;>
    simp only [record, forall_mem_cons, not_mem_nil, false_implies, implies_true, and_true]
  · exact ⟨.inl rfl, .inr (spares_of fun _ _ => rfl)⟩
  · exact ⟨.inr (spares_of fun _ _ => rfl), .inl rfl⟩

theorem orderly_record (compiled : FeatureSet) : (record compiled).Orderly := by
  obtain ⟨hfeatures, hlogging⟩ := shows compiled
  simp only [Decoder.Record.Orderly, record, forall_mem_cons, not_mem_nil, false_implies,
    implies_true, and_true]
  exact ⟨⟨_, _, _, hfeatures⟩, ⟨_, _, _, hlogging⟩⟩

theorem exists_keepMembers (h : Json.Gives members given) (compiled : FeatureSet)
    (intake : Intake) :
    ∃ q, (record compiled).keepMembers intake (Reading.ofMembers members) {} = .ok q := by
  apply Decoder.Record.exists_keepMembers (orderly_record compiled) h.nodup
  · intro key _ field hfield
    have hmem := (Decoder.Record.mem_of_field? hfield).1
    simp only [record, mem_cons, not_mem_nil, or_false] at hmem
    rcases hmem with rfl | rfl <;> rfl
  · intro key value hmem field hfield p
    obtain ⟨hmem', rfl⟩ := Decoder.Record.mem_of_field? hfield
    simp only [record, mem_cons, not_mem_nil, or_false] at hmem'
    rcases hmem' with rfl | rfl
    · obtain ⟨inner, rfl, hinner⟩ := h.sections .csmaCa value hmem
      exact ⟨_, Decoder.Field.keep_of_eq_ok_iff.mpr
        ⟨_, Switches.decoder_of_givesIn hinner compiled intake, rfl⟩⟩
    · obtain ⟨inner, rfl, hinner⟩ := h.sections .level value hmem
      exact ⟨_, Decoder.Field.keep_of_eq_ok_iff.mpr
        ⟨_, Logging.decoder_of_givesIn hinner compiled intake, rfl⟩⟩

/-- Settings are read as they are given, and else as the build has them. -/
theorem decoder_of_gives (h : Json.Gives members given) (compiled : FeatureSet)
    (intake : Intake) :
    decoder compiled intake (.ofJson (.object members)) =
      .ok (assigned (.default compiled) given) := by
  obtain ⟨hshowsFeatures, hshowsLogging⟩ := shows compiled
  obtain ⟨q, hq⟩ := exists_keepMembers h compiled intake
  have hfeatures : q.features.getD (.default compiled) =
      (assigned (.default compiled) given).features := by
    by_cases hmem : "features" ∈ members.map Prod.fst
    · obtain ⟨⟨home, value⟩, hmem, rfl : home = "features"⟩ := mem_map.mp hmem
      obtain ⟨inner, rfl, hinner⟩ := h.sections .csmaCa value hmem
      obtain ⟨switches, hread, hget⟩ :=
        Decoder.Record.get_of_mem hshowsFeatures h.nodup hq hmem
      rw [Switches.decoder_of_givesIn hinner] at hread
      rw [hget, ← Except.ok.inj hread, Option.getD_some]
    · have hget := Decoder.Record.get_of_notMem hshowsFeatures hq hmem
      rw [hget, assigned, h.absent .csmaCa hmem, h.absent .ackTimeout hmem,
        h.absent .delayedTrx hmem, h.absent .ifs hmem]
      rfl
  have hlogging : q.logging.getD {} = (assigned (.default compiled) given).logging := by
    by_cases hmem : "logging" ∈ members.map Prod.fst
    · obtain ⟨⟨home, value⟩, hmem, rfl : home = "logging"⟩ := mem_map.mp hmem
      obtain ⟨inner, rfl, hinner⟩ := h.sections .level value hmem
      obtain ⟨logging, hread, hget⟩ := Decoder.Record.get_of_mem hshowsLogging h.nodup hq hmem
      rw [Logging.decoder_of_givesIn hinner compiled] at hread
      rw [hget, ← Except.ok.inj hread, Option.getD_some]
    · have hget := Decoder.Record.get_of_notMem hshowsLogging hq hmem
      rw [hget, assigned, h.absent .level hmem, h.absent .format hmem]
      rfl
  rw [Reading.ofJson]
  refine Decoder.Record.decode_object hq ?_
  show Except.ok (complete compiled q) = _
  rw [complete, hfeatures, hlogging]

theorem exists_value_iff {settings : Settings} {s : Setting} {held : Json} :
    (∃ value, some (settings.value s) = some value ∧ held = s.json value) ↔
      held = s.json (settings.value s) := by
  simp

theorem givesIn_json_switches (settings : Settings) :
    Json.GivesIn "features"
      [("csma_ca", .bool settings.features.csmaCa),
        ("ack_timeout", .bool settings.features.ackTimeout),
        ("delayed_trx", .bool settings.features.delayedTrx), ("ifs", .bool settings.features.ifs)]
      fun s => some (settings.value s) where
  nodup := by simp
  mem_iff s hs held := by
    rw [exists_value_iff]
    cases s <;> simp [Setting.home, Setting.key, Setting.json, Settings.value] at hs ⊢

theorem givesIn_json_logging (settings : Settings) :
    Json.GivesIn "logging"
      [("level", .string settings.logging.level), ("format", .string settings.logging.format)]
      fun s => some (settings.value s) where
  nodup := by simp
  mem_iff s hs held := by
    rw [exists_value_iff]
    cases s <;> simp [Setting.home, Setting.key, Setting.json, Settings.value] at hs ⊢

/-- Written settings give a value to each setting. -/
theorem gives_json (settings : Settings) :
    Json.Gives [("features", settings.features.json), ("logging", settings.logging.json)]
      fun s => some (settings.value s) where
  nodup := by simp
  sections s value hmem := by
    rcases mem_cons.mp hmem with he | hmem
    · obtain ⟨hhome, rfl⟩ := Prod.mk.inj he
      rw [hhome]
      exact ⟨_, rfl, givesIn_json_switches settings⟩
    · obtain ⟨hhome, rfl⟩ := Prod.mk.inj (mem_singleton.mp hmem)
      rw [hhome]
      exact ⟨_, rfl, givesIn_json_logging settings⟩
  absent s hnot := by
    cases s <;> simp [Setting.home] at hnot

end Settings

namespace Json

/-! ## Objects alike -/

variable {known : List String} {members members' inner inner' : List (String × Json)}
  {given : Assignment}

theorem Alike.mem_iff (h : Alike known members members') {key : String} (hkey : key ∈ known)
    (value : Json) : (key, value) ∈ members ↔ (key, value) ∈ members' := by
  have hfilter := Perm.mem_iff h (a := (key, value))
  simpa [hkey] using hfilter

theorem Alike.mem_keys_iff (h : Alike known members members') {key : String}
    (hkey : key ∈ known) : key ∈ members.map Prod.fst ↔ key ∈ members'.map Prod.fst := by
  simp only [mem_map, Prod.exists, exists_and_right, exists_eq_right, h.mem_iff hkey]

theorem Gives.of_alike (h : Gives members given) (hnodup : (members'.map Prod.fst).Nodup)
    (halike : Alike (Setting.all.map Setting.home) members members') : Gives members' given where
  nodup := hnodup
  sections s value hmem := by
    have hhome : s.home ∈ Setting.all.map Setting.home := mem_map_of_mem s.mem_all
    exact h.sections s value ((halike.mem_iff hhome value).mpr hmem)
  absent s hnot := by
    have hhome : s.home ∈ Setting.all.map Setting.home := mem_map_of_mem s.mem_all
    exact h.absent s fun hmem => hnot ((halike.mem_keys_iff hhome).mp hmem)

theorem GivesIn.of_alike {home : String} (h : GivesIn home inner given)
    (hnodup : (inner'.map Prod.fst).Nodup)
    (halike : Alike ((Setting.all.filter (·.home == home)).map Setting.key) inner inner') :
    GivesIn home inner' given where
  nodup := hnodup
  mem_iff s hs value := by
    have hkey : s.key ∈ (Setting.all.filter (·.home == home)).map Setting.key :=
      mem_map_of_mem (mem_filter.mpr ⟨s.mem_all, beq_iff_eq.mpr hs⟩)
    rw [← halike.mem_iff hkey]
    exact h.mem_iff s hs value

/-- What is given does not change with a section that is alike. -/
theorem Gives.of_section {front back : List (String × Json)} {s : Setting}
    (h : Gives (front ++ (s.home, .object inner) :: back) given)
    (hnodup : (inner'.map Prod.fst).Nodup)
    (halike : Alike ((Setting.all.filter (·.home == s.home)).map Setting.key) inner inner') :
    Gives (front ++ (s.home, .object inner') :: back) given where
  nodup := by simpa using h.nodup
  sections t value hmem := by
    rcases mem_append.mp hmem with hfront | hmem
    · exact h.sections t value (mem_append_left _ hfront)
    rcases mem_cons.mp hmem with he | hback
    · obtain ⟨hhome, rfl⟩ := Prod.mk.inj he
      obtain ⟨_, hobject, hinner⟩ :=
        h.sections s (.object inner) (mem_append_right _ mem_cons_self)
      cases hobject
      rw [hhome]
      exact ⟨inner', rfl, hinner.of_alike hnodup halike⟩
    · exact h.sections t value (mem_append_right _ (mem_cons_of_mem _ hback))
  absent t hnot := h.absent t (by simpa using hnot)

end Json

/-! ## Decoding -/

/-- What JSON decodes to, whether it comes whole or is read from a text. -/
structure CompletionSpec (compiled : FeatureSet) (intake : Intake) : Prop where
  layouts : ∀ layouts : List ChannelLayout,
    Decoder.list ChannelLayout.decoder intake
      (.ofJson (.array (layouts.map ChannelLayout.json))) = .ok layouts
  /-- The order of members does not matter to layouts, either. -/
  layouts_reordered : ∀ (layouts : List ChannelLayout) values,
    Forall₂ ChannelLayout.WrittenAs layouts values →
      Decoder.list ChannelLayout.decoder intake (.ofJson (.array values)) = .ok layouts
  settings : ∀ settings : Settings,
    Settings.decoder compiled intake (.ofJson settings.json) = .ok settings
  completed : ∀ members given, Json.Gives members given → ∃ settings : Settings,
    Settings.decoder compiled intake (.ofJson (.object members)) = .ok settings ∧
      ∀ s, settings.value s = (given s).getD ((Settings.default compiled).value s)
  /-- Neither unknown keys nor the order of sections matter. -/
  sections_alike : ∀ members members' given, Json.Gives members given →
    (members'.map Prod.fst).Nodup →
    Json.Alike (Setting.all.map Setting.home) members members' →
      Settings.decoder compiled intake (.ofJson (.object members')) =
        Settings.decoder compiled intake (.ofJson (.object members))
  /-- Neither do they within a section. -/
  settings_alike : ∀ (s : Setting) front inner inner' back given,
    Json.Gives (front ++ (s.home, .object inner) :: back) given →
    (inner'.map Prod.fst).Nodup →
    Json.Alike ((Setting.all.filter (·.home == s.home)).map Setting.key) inner inner' →
      Settings.decoder compiled intake
          (.ofJson (.object (front ++ (s.home, .object inner') :: back))) =
        Settings.decoder compiled intake
          (.ofJson (.object (front ++ (s.home, .object inner) :: back)))

/-- What was written is read back, and what is given in part is completed. -/
theorem settings_completed (compiled : FeatureSet) (intake : Intake) :
    CompletionSpec compiled intake where
  layouts := Decoder.list_ofJson fun layout => layout.writtenAs_json.decoder intake
  layouts_reordered layouts values h :=
    Decoder.list_of_forall₂ (h.imp fun layout value hwritten => hwritten.decoder intake)
  settings settings := by
    have hread := Settings.decoder_of_gives (Settings.gives_json settings) compiled intake
    rw [Settings.json, hread]
    rfl
  completed members given h :=
    ⟨_, Settings.decoder_of_gives h compiled intake, Settings.value_assigned _ given⟩
  sections_alike members members' given h hnodup halike := by
    rw [Settings.decoder_of_gives h, Settings.decoder_of_gives (h.of_alike hnodup halike)]
  settings_alike s front inner inner' back given h hnodup halike := by
    rw [Settings.decoder_of_gives h, Settings.decoder_of_gives (h.of_section hnodup halike)]

/-- Members of which one is a setting, and one is a section without any. -/
def Json.scattered : List (String × Json) :=
  [("note", .null), ("logging", .object [("colour", .bool true), ("format", .string "json")]),
    ("features", .object [])]

theorem Json.gives_scattered : Gives scattered (Setting.only .format "json") where
  nodup := by simp [scattered]
  sections s value hmem := by
    simp only [scattered, mem_cons, Prod.mk.injEq, not_mem_nil, or_false] at hmem
    rcases hmem with ⟨hhome, -⟩ | ⟨hhome, rfl⟩ | ⟨hhome, rfl⟩
    · cases s <;> simp [Setting.home] at hhome
    · rw [hhome]
      exact ⟨_, rfl, (givesIn_only .format "json").of_alike (by simp) (Perm.of_eq rfl)⟩
    · rw [hhome]
      exact ⟨_, rfl, givesIn_nil (s := .format) (by decide) "json"⟩
  absent s hnot := by
    cases s <;> simp [scattered, Setting.home] at hnot

/-- One setting is given among members that are none, and the others are as usual. -/
theorem settings_completed_scattered :
    Json.Gives Json.scattered (Setting.only .format "json") ∧ ∃ settings : Settings,
      Settings.decoder .all .whole (.ofJson (.object Json.scattered)) = .ok settings ∧
        settings.value .format = "json" ∧ settings.value .level = "info" ∧
          settings.value .csmaCa = true := by
  have hspec := settings_completed .all .whole
  obtain ⟨settings, hread, hvalue⟩ := hspec.completed _ _ Json.gives_scattered
  exact ⟨Json.gives_scattered, settings, hread, hvalue .format, hvalue .level, hvalue .csmaCa⟩

end MacDispatch
