import WebhookOperator.Decimal
import WebhookOperator.Yaml.Document

/-!
# What a scalar means

A plain scalar is null, a truth value or a number where it is written as one, and a text everywhere
else. A tag of the standard kinds says the same of any scalar. Digits after a leading zero make no
number, and neither does a decimal fraction too large for a binary number of 64 bits.
-/

namespace WebhookOperator.Yaml

def isNull (text : String) : Bool := text ∈ ["null", "Null", "NULL", "~"]

def isBool (text : String) : Bool :=
  text ∈ ["true", "True", "TRUE", "false", "False", "FALSE"]

/-- The rest of a text behind its sign. -/
def unsigned (text : List Char) : List Char :=
  match text with
  | '-' :: rest | '+' :: rest => rest
  | text => text

/-- Digits that start with a zero and go on. -/
def isPadded (text : List Char) : Bool :=
  let digits := unsigned text
  digits.length > 1 && digits.head? == some '0' && digits.all Char.isDigit

/-- The value of digits to a base. -/
def valueOf? (base : Nat) (digits : List Char) : Option Nat :=
  if digits.isEmpty then none
  else digits.foldlM (fun value c => do
    let digit ← hexDigit? c
    if digit < base then return value * base + digit else none) 0

/-- A number to the base 16, 8 or 2 behind its mark. -/
def markedValue? : List Char → Option Nat
  | '0' :: 'x' :: digits => valueOf? 16 digits
  | '0' :: 'o' :: digits => valueOf? 8 digits
  | '0' :: 'b' :: digits => valueOf? 2 digits
  | _ => none

/-- Whether a text is a whole number that 128 bits hold. -/
def isInt (text : List Char) : Bool :=
  let (positive, rest) := match text with
    | '+' :: rest => (true, rest)
    | rest => (false, rest)
  let (negative, digits) := match rest with
    | '-' :: digits => (true, digits)
    | digits => (false, digits)
  if positive && negative then false
  else
    let limit := if negative then Nat.pow 2 127 + 1 else Nat.pow 2 128
    (markedValue? digits).any (· < limit) ||
      (!isPadded text && digits.all Char.isDigit && (valueOf? 10 digits).any (· < limit))

/-- The exponent that ends a number; none at all stands for zero. -/
def exponent? : List Char → Option Int
  | [] => some 0
  | e :: rest =>
    let digits := unsigned rest
    if (e == 'e' || e == 'E') && digits.all Char.isDigit then
      (valueOf? 10 digits).map fun value => if rest.head? == some '-' then -value else value
    else none

/-- The digits of a number with a fraction, and the power of ten that they are multiplied by. -/
def fraction? (text : List Char) : Option (Nat × Int) := do
  let (whole, rest) := text.span Char.isDigit
  let (part, rest) := match rest with
    | '.' :: rest => rest.span Char.isDigit
    | rest => ([], rest)
  return (← valueOf? 10 (whole ++ part), (← exponent? rest) - part.length)

/-- Whether a text is a decimal fraction, an infinite value or no number. -/
def isFloat (text : List Char) : Bool :=
  let positive := match text with
    | '+' :: '+' :: _ | '+' :: '-' :: _ => none
    | '+' :: rest => some rest
    | rest => some rest
  match positive with
  | none => false
  | some rest =>
    let named (names : List String) (text : List Char) : Bool := names.any (·.toList == text)
    let magnitude := match rest with
      | '-' :: digits => digits
      | digits => digits
    !isPadded text &&
      (named [".inf", ".Inf", ".INF"] rest || named ["-.inf", "-.Inf", "-.INF"] text ||
        named [".nan", ".NaN", ".NAN"] text ||
        (fraction? magnitude).any fun (digits, exponent) => !Decimal.isTooLarge digits exponent)

def isPlainText (text : String) : Bool :=
  !(text.isEmpty || isNull text || isBool text || isInt text.toList || isFloat text.toList)

/-- The tags of scalars that are no texts. -/
def otherTags : List String :=
  ["tag:yaml.org,2002:bool", "tag:yaml.org,2002:int", "tag:yaml.org,2002:float",
   "tag:yaml.org,2002:null"]

def isLocal (tag : Option String) : Bool := tag.any (·.startsWith "!")

/-- Whether a scalar is a text. One with a local tag is of no known kind. -/
def isText (tag : Option String) (plain : Bool) (text : String) : Bool :=
  match tag with
  | some name => !(isLocal tag || otherTags.contains name)
  | none => !plain || isPlainText text

/-- Whether a scalar stands for nothing, where something may be absent; nothing is told when it is
tagged as null and is something else. -/
def isAbsent? (tag : Option String) (plain : Bool) (text : String) : Option Bool :=
  if !plain then some false
  else match tag with
    | some "tag:yaml.org,2002:null" => if isNull text then some true else none
    | some _ => some false
    | none => some (text.isEmpty || isNull text)

end WebhookOperator.Yaml
