import WebhookOperator.Json.Basic

/-!
# The tokens of JSON text

`Json.Token.scan` splits a text into tokens. It never fails: where the text stops being JSON the
token list ends with `invalid`, so a reader still sees everything before that point.

The body of a string is first cut into pieces, characters and 16-bit units, and then the units are
joined: a leading surrogate needs its trailing one at once, and every other surrogate is refused.
-/

namespace WebhookOperator.Json

inductive Token where
  | openArray
  | closeArray
  | openObject
  | closeObject
  | comma
  | colon
  | literal (value : Json)
  | text (value : String)
  | invalid
deriving Inhabited

namespace Token

/-- A part of a string: a character, or a 16-bit unit written as four hexadecimal digits. -/
inductive Piece where
  | char (value : Char)
  | unit (code : Nat)

def hexDigit? (c : Char) : Option Nat :=
  if '0' ≤ c ∧ c ≤ '9' then some (c.toNat - '0'.toNat)
  else if 'a' ≤ c ∧ c ≤ 'f' then some (c.toNat - 'a'.toNat + 10)
  else if 'A' ≤ c ∧ c ≤ 'F' then some (c.toNat - 'A'.toNat + 10)
  else none

def hexValue? (digits : List Char) : Option Nat :=
  digits.foldl (fun value c => do return (← value) * 16 + (← hexDigit? c)) (some 0)

def escaped? : Char → Option Char
  | '"' => some '"'
  | '\\' => some '\\'
  | '/' => some '/'
  | 'b' => some '\x08'
  | 'f' => some '\x0c'
  | 'n' => some '\n'
  | 'r' => some '\r'
  | 't' => some '\t'
  | _ => none

/-- The pieces up to the closing quote, and the text after it. -/
def pieces : List Char → Option (List Piece × List Char)
  | [] => none
  | '"' :: rest => some ([], rest)
  | '\\' :: 'u' :: a :: b :: c :: d :: rest => do
    let code ← hexValue? [a, b, c, d]
    let (more, rest) ← pieces rest
    return (.unit code :: more, rest)
  | '\\' :: c :: rest => do
    let value ← escaped? c
    let (more, rest) ← pieces rest
    return (.char value :: more, rest)
  | c :: rest => do
    if c.toNat < 0x20 then none
    let (more, rest) ← pieces rest
    return (.char c :: more, rest)

def join : List Piece → Option (List Char)
  | [] => some []
  | .char c :: rest => (join rest).map (c :: ·)
  | .unit high :: .unit low :: rest =>
    if 0xD800 ≤ high ∧ high < 0xDC00 then
      if 0xDC00 ≤ low ∧ low < 0xE000 then
        (join rest).map (Char.ofNat (0x10000 + (high - 0xD800) * 0x400 + (low - 0xDC00)) :: ·)
      else none
    else if 0xDC00 ≤ high ∧ high < 0xE000 then none
    else (join (.unit low :: rest)).map (Char.ofNat high :: ·)
  | .unit code :: rest =>
    if 0xD800 ≤ code ∧ code < 0xE000 then none else (join rest).map (Char.ofNat code :: ·)

/-- The digits at the head of a text, and the rest. -/
def digits (chars : List Char) : List Char × List Char := chars.span Char.isDigit

def digitsValue (chars : List Char) : Nat :=
  chars.foldl (fun value c => value * 10 + (c.toNat - '0'.toNat)) 0

/-- The number at the head of a text that starts with a digit or a minus sign. -/
def number? (chars : List Char) : Option (Number × List Char) := do
  let (negative, chars) := match chars with
    | '-' :: rest => (true, rest)
    | chars => (false, chars)
  let (whole, rest) := digits chars
  if whole.isEmpty || (whole.head? == some '0' && whole.length > 1) then none
  let (fraction, rest) ← match rest with
    | '.' :: rest =>
      let (fraction, rest) := digits rest
      if fraction.isEmpty then none else some (fraction, rest)
    | rest => some ([], rest)
  let (exponent, rest) ← match rest with
    | e :: rest' =>
      if e = 'e' ∨ e = 'E' then
        let (sign, rest') : Int × List Char := match rest' with
          | '-' :: rest' => (-1, rest')
          | '+' :: rest' => (1, rest')
          | rest' => (1, rest')
        let (shown, rest') := digits rest'
        if shown.isEmpty then none else some (some (sign * digitsValue shown), rest')
      else some (none, rest)
    | [] => some (none, [])
  let magnitude := digitsValue (whole ++ fraction)
  let signed : Int := if negative then -magnitude else magnitude
  if fraction.isEmpty && exponent.isNone then
    return (.int signed, rest)
  else
    let power : Int := exponent.getD 0 - fraction.length
    if Decimal.isTooLarge magnitude power then none
    return (.decimal (Decimal.rounded signed power), rest)

/-- Blanks between tokens. -/
def isBlank (c : Char) : Bool := c == ' ' || c == '\t' || c == '\n' || c == '\r'

/-- The token at the head of a text that starts with no blank. -/
def next? : List Char → Option (Token × List Char)
  | '[' :: rest => some (openArray, rest)
  | ']' :: rest => some (closeArray, rest)
  | '\x7b' :: rest => some (openObject, rest)
  | '\x7d' :: rest => some (closeObject, rest)
  | ',' :: rest => some (comma, rest)
  | ':' :: rest => some (colon, rest)
  | 'n' :: 'u' :: 'l' :: 'l' :: rest => some (literal .null, rest)
  | 't' :: 'r' :: 'u' :: 'e' :: rest => some (literal (.bool true), rest)
  | 'f' :: 'a' :: 'l' :: 's' :: 'e' :: rest => some (literal (.bool false), rest)
  | '"' :: rest => do
    let (parts, rest) ← pieces rest
    return (text (String.ofList (← join parts)), rest)
  | chars => (number? chars).map fun (number, rest) => (literal (.num number), rest)

/-- The tokens of a text; `fuel` bounds their number. -/
def scanWith : Nat → List Char → List Token
  | 0, _ => [invalid]
  | fuel + 1, chars =>
    match chars.dropWhile isBlank with
    | [] => []
    | rest =>
      match next? rest with
      | none => [invalid]
      | some (token, rest) => token :: scanWith fuel rest

def scan (content : String) : List Token :=
  let chars := content.toList
  scanWith (chars.length + 1) chars

end Token

end WebhookOperator.Json
