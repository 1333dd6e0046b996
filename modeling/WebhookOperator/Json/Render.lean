import WebhookOperator.Json.Basic

/-!
# Writing JSON text

`Json.render` writes a document without blanks, members in the order they have in it. Quotes,
backslashes and control characters are escaped and every other character stands for itself.
-/

namespace WebhookOperator.Json

def hexDigit (value : Nat) : Char :=
  if value < 10 then Char.ofNat ('0'.toNat + value) else Char.ofNat ('a'.toNat + value - 10)

def renderChar (c : Char) : List Char :=
  match c with
  | '"' => ['\\', '"']
  | '\\' => ['\\', '\\']
  | '\x08' => ['\\', 'b']
  | '\x0c' => ['\\', 'f']
  | '\n' => ['\\', 'n']
  | '\r' => ['\\', 'r']
  | '\t' => ['\\', 't']
  | c =>
    if c.toNat < 0x20 then
      ['\\', 'u', '0', '0', hexDigit (c.toNat / 16), hexDigit (c.toNat % 16)]
    else [c]

def renderString (value : String) : String :=
  "\"" ++ String.ofList (value.toList.flatMap renderChar) ++ "\""

/-- Numbers are positional between a hundred thousandth and ten to the sixteenth. -/
def numberLayout : Decimal.Layout := ⟨-5, 16⟩

def renderNumber : Number → String
  | .int value => toString value
  | .decimal value => value.text numberLayout

def separator : List α → String
  | [] => ""
  | _ :: _ => ","

mutual

def render : Json → String
  | null => "null"
  | bool true => "true"
  | bool false => "false"
  | num value => renderNumber value
  | str value => renderString value
  | arr items => "[" ++ renderItems items ++ "]"
  | obj members => "\x7b" ++ renderMembers members ++ "\x7d"

def renderItems : List Json → String
  | [] => ""
  | item :: items => render item ++ separator items ++ renderItems items

def renderMembers : List (String × Json) → String
  | [] => ""
  | (key, value) :: members =>
    renderString key ++ ":" ++ render value ++ separator members ++ renderMembers members

end

end WebhookOperator.Json
