/-!
# Form encoding

The values of a query string: letters, digits and `*-._` stand for themselves, a space is a plus
sign, and every byte of any other character is written as a percent sign and two digits.
-/

namespace WebhookOperator.Text.FormUrl

/-- Whether a character stands for itself. -/
def isPlain (c : Char) : Bool := c.isAlphanum || c == '*' || c == '-' || c == '.' || c == '_'

def hexDigit (value : Nat) : Char :=
  if value < 10 then Char.ofNat ('0'.toNat + value) else Char.ofNat ('A'.toNat + value - 10)

/-- A byte as a percent sign and two digits. -/
def escapeByte (byte : UInt8) : List Char :=
  ['%', hexDigit (byte.toNat / 16), hexDigit (byte.toNat % 16)]

def encodeChar (c : Char) : List Char :=
  if isPlain c then [c]
  else if c = ' ' then ['+']
  else (String.utf8EncodeChar c).flatMap escapeByte

def encode (text : String) : String := String.ofList (text.toList.flatMap encodeChar)

end WebhookOperator.Text.FormUrl
