import MacDispatch.Text.Quoted

/-! # Outlines

The shape of a value as it is shown to a developer: names, labelled fields and lists. An outline
is written on one line, or as a block with four blanks for each level. -/

namespace MacDispatch.Text

/-- What is shown of a value. -/
inductive Outline
  | word (text : String)
  | record (name : String) (fields : List (String × Outline))
  | wrapped (name : String) (items : List Outline)
  | list (items : List Outline)

namespace Outline

def bool (b : Bool) : Outline := word (if b then "true" else "false")

def nat (n : Nat) : Outline := word (toString n)

def string (text : String) : Outline := word (quoted text)

def option : Option Outline → Outline
  | none => word "None"
  | some item => wrapped "Some" [item]

mutual

/-- The outline on one line. -/
def inline : Outline → String
  | word text => text
  | record name [] => name
  | record name fields => name ++ " \x7b " ++ ", ".intercalate (inlineFields fields) ++ " \x7d"
  | wrapped name items => name ++ "(" ++ ", ".intercalate (inlineItems items) ++ ")"
  | list items => "[" ++ ", ".intercalate (inlineItems items) ++ "]"

private def inlineItems : List Outline → List String
  | [] => []
  | item :: rest => inline item :: inlineItems rest

private def inlineFields : List (String × Outline) → List String
  | [] => []
  | (label, value) :: rest => (label ++ ": " ++ inline value) :: inlineFields rest

end

private def newline (level : Nat) : String :=
  String.ofList ('\n' :: List.replicate (4 * level) ' ')

/-- Lines between brackets, each closed by a comma. -/
private def between (opening closing : String) (level : Nat) (lines : List String) : String :=
  if lines.isEmpty then opening ++ closing
  else opening ++ String.join (lines.map fun line => newline (level + 1) ++ line ++ ",")
    ++ newline level ++ closing

mutual

/-- The outline as a block whose first line stands at the given level. -/
def blockAt (level : Nat) : Outline → String
  | word text => text
  | record name [] => name
  | record name fields => between (name ++ " \x7b") "\x7d" level (blockFields (level + 1) fields)
  | wrapped name items => between (name ++ "(") ")" level (blockItems (level + 1) items)
  | list items => between "[" "]" level (blockItems (level + 1) items)

private def blockItems (level : Nat) : List Outline → List String
  | [] => []
  | item :: rest => blockAt level item :: blockItems level rest

private def blockFields (level : Nat) : List (String × Outline) → List String
  | [] => []
  | (label, value) :: rest => (label ++ ": " ++ blockAt level value) :: blockFields level rest

end

def block (outline : Outline) : String := blockAt 0 outline

theorem inline_option_word (text : String) :
    (option (some (word text))).inline = "Some(" ++ text ++ ")" := by
  simp [option, inline, inlineItems]

end Outline

end MacDispatch.Text
