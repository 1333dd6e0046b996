import WebhookOperator.Text.Printable

/-!
# Quoted text

`Text.quote` puts a text between double quotes and writes the characters that would be unclear on
a line as escapes: a quote and a backslash after a backslash, the usual line characters by their
letter, and every other character that is not printable by its code point.
-/

namespace WebhookOperator.Text

def quoteChar (c : Char) : List Char :=
  match c with
  | '"' => ['\\', '"']
  | '\\' => ['\\', '\\']
  | '\n' => ['\\', 'n']
  | '\r' => ['\\', 'r']
  | '\t' => ['\\', 't']
  | '\x00' => ['\\', '0']
  | c =>
    if isPrintable c then [c]
    else ['\\', 'u', '\x7b'] ++ Nat.toDigits 16 c.toNat ++ ['\x7d']

def quote (text : String) : String :=
  "\"" ++ String.ofList (text.toList.flatMap quoteChar) ++ "\""

end WebhookOperator.Text
