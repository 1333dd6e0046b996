import WebhookOperator.Dict
import WebhookOperator.Text.Quoted

/-!
# Outlines of values

An outline is the tree behind the one-line text of a value: a structure with its name and all of
its fields, a list, a dictionary, a quoted text, an optional value as `None` or `Some(...)`. Conflicts
and error messages show values this way.
-/

namespace WebhookOperator

inductive Outline where
  /-- A text as it stands. -/
  | word (text : String)
  /-- A text between quotes. -/
  | quoted (text : String)
  /-- A value in a named wrapper. -/
  | wrapped (name : String) (content : Outline)
  /-- A collection with a name before it. -/
  | labeled (name : String) (content : Outline)
  | list (items : List Outline)
  | map (entries : List (String × Outline))
  | record (name : String) (fields : List (String × Outline))

namespace Outline

def separator : List α → String
  | [] => ""
  | _ :: _ => ", "

mutual

def text : Outline → String
  | word text => text
  | quoted text => Text.quote text
  | wrapped name content => name ++ "(" ++ content.text ++ ")"
  | labeled name content => name ++ " " ++ content.text
  | list items => "[" ++ itemsText items ++ "]"
  | map entries => "\x7b" ++ entriesText entries ++ "\x7d"
  | record name fields => name ++ " \x7b " ++ fieldsText fields ++ " \x7d"

def itemsText : List Outline → String
  | [] => ""
  | item :: items => item.text ++ separator items ++ itemsText items

def entriesText : List (String × Outline) → String
  | [] => ""
  | (key, value) :: entries =>
    Text.quote key ++ ": " ++ value.text ++ separator entries ++ entriesText entries

def fieldsText : List (String × Outline) → String
  | [] => ""
  | (name, value) :: fields => name ++ ": " ++ value.text ++ separator fields ++ fieldsText fields

end

def option (outline : α → Outline) : Option α → Outline
  | none => word "None"
  | some value => wrapped "Some" (outline value)

def bool (value : Bool) : Outline := word (if value then "true" else "false")

def int (value : Int) : Outline := word (toString value)

def listOf (outline : α → Outline) (values : List α) : Outline := list (values.map outline)

def dict (outline : α → Outline) (values : Dict α) : Outline :=
  map (values.entries.map fun (key, value) => (key, outline value))

end Outline

end WebhookOperator
