import MacDispatch.Radio.Encoding
import MacDispatch.Radio.Feature

/-! # Spellings

A value of a vocabulary has a name, under which it is asked for, and a tag, from which its spelling
in JSON derives. Main statement: for the vocabularies of the radio the two spellings are one, and
a text in either place is read as a value exactly if it is that spelling. -/

namespace MacDispatch

open Vocabulary (name tag)

/-- A capital within a word begins another. -/
def Text.parted (c : Char) : List Char :=
  if c.isUpper then ['_', c.toLower] else [c.toLower]

/-- The words of a tag in small letters, with underscores between them. -/
def Text.snakeCase (text : String) : String :=
  match text.toList with
  | [] => ""
  | first :: rest => String.ofList (first.toLower :: rest.flatMap parted)

/-- Whether a character may stand in a name. -/
def Text.isPlain (c : Char) : Bool := c.isLower || c.isDigit || c == '_'

/-- Names are all there is to a vocabulary, in the texts of people and of programs. -/
structure SpellingSpec (α : Type) [Vocabulary α] : Prop where
  parse_iff : ∀ (text : String) (a : α), Vocabulary.parse α text = .ok a ↔ text = name a
  unique : ∀ (text : String) (a b : α), text = name a → text = name b → a = b
  /-- Whoever writes capitals or blanks is not understood. -/
  plain : ∀ (text : String) (a : α), Vocabulary.parse α text = .ok a →
    text.toList.all Text.isPlain = true
  unknown : ∀ text : String, (∀ a : α, text ≠ name a) → ∃ failure : Failure,
    Vocabulary.parse α text = .error failure ∧ failure.kind = .validation ∧
      ∃ front, failure.message = front ++ ("'" ++ text ++ "'")
  derived : ∀ a : α, Text.snakeCase (tag a) = name a
  decode_iff : ∀ (intake : Intake) (text : String) (a : α),
    Decoder.variant α intake (.ofJson (.string text)) = .ok a ↔ text = Text.snakeCase (tag a)
  decode_iff_parse : ∀ (intake : Intake) (text : String) (a : α),
    Decoder.variant α intake (.ofJson (.string text)) = .ok a ↔ Vocabulary.parse α text = .ok a
  json_eq : ∀ (text : String) (a : α), Vocabulary.parse α text = .ok a →
    Vocabulary.json a = .string text

/-- A text that is no name is told of as it was written. -/
theorem Vocabulary.parse_eq_error {α : Type} [Vocabulary α] {text : String}
    (h : ∀ a : α, text ≠ name a) :
    parse α text = .error (.validation ("unknown " ++ noun α ++ " '" ++ text ++ "'")) := by
  rw [parse, ofName?_eq_none_iff.mpr h]
  rfl

/-- A vocabulary is spelled in one way if its names derive from its tags and are plain. -/
theorem spellingSpec_of_derived {α : Type} [Vocabulary α]
    (hderived : ∀ a : α, Text.snakeCase (tag a) = name a)
    (hplain : ∀ a : α, (name a).toList.all Text.isPlain = true) : SpellingSpec α where
  parse_iff _ _ := Vocabulary.parse_eq_ok_iff
  unique text a b ha hb := Vocabulary.name_injective a b (ha.symm.trans hb)
  plain text a h := by
    obtain rfl := Vocabulary.parse_eq_ok_iff.mp h
    exact hplain a
  unknown text h := by
    have hquote : " '" = " " ++ "'" := by decide
    refine ⟨_, Vocabulary.parse_eq_error h, rfl, "unknown " ++ Vocabulary.noun α ++ " ", ?_⟩
    simp only [Failure.validation, hquote, String.append_assoc]
  derived := hderived
  decode_iff intake text a := by
    rw [hderived]
    exact Decoder.variant_string_eq_ok_iff
  decode_iff_parse intake text a := by
    rw [Vocabulary.parse_eq_ok_iff]
    exact Decoder.variant_string_eq_ok_iff
  json_eq text a h := by
    rw [Vocabulary.parse_eq_ok_iff.mp h, Vocabulary.json]

/-- Every vocabulary of the radio is spelled in one way. -/
theorem names_spelled_once :
    SpellingSpec Channel ∧ SpellingSpec Feature ∧ SpellingSpec TermLevel ∧
      SpellingSpec Originator ∧ SpellingSpec TxError := by
  refine ⟨?_, ?_, ?_, ?_, ?_⟩ <;>
  · apply spellingSpec_of_derived
    · intro a
      cases a <;> decide
    · intro a
      cases a <;> decide

end MacDispatch
