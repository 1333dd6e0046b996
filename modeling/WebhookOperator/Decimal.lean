/-!
# Decimal numbers

A decimal number is an integer divided by a power of ten. Sums and comparisons are exact, so a
total of observed durations does not depend on the order of the observations. `Decimal.text`
writes a number with the fewest digits; the layout says between which magnitudes the digits stand
in positional form.
-/

namespace WebhookOperator

/-- The number `digits / 10 ^ scale`. -/
structure Decimal where
  digits : Int
  scale : Nat
deriving DecidableEq, Inhabited

namespace Decimal

def tenTo (exponent : Nat) : Nat := Nat.pow 10 exponent

def ofInt (value : Int) : Decimal := ⟨value, 0⟩

/-- The number `digits * 10 ^ exponent`. -/
def ofScientific (digits exponent : Int) : Decimal :=
  if exponent < 0 then ⟨digits, exponent.natAbs⟩ else ⟨digits * tenTo exponent.toNat, 0⟩

def digitCount (digits : Nat) : Nat := (Nat.repr digits).length

/-- Whether `digits * 10 ^ exponent` is too large for a binary number of 64 bits, so that it would
round to an infinite one. Far from the bound the count of digits decides alone. -/
def isTooLarge (digits : Nat) (exponent : Int) : Bool :=
  let bound := (Nat.pow 2 54 - 1) * Nat.pow 2 970
  let magnitude := exponent + digitCount digits
  if digits = 0 ∨ magnitude < 300 then false
  else if magnitude > 400 then true
  else if exponent < 0 then digits ≥ bound * tenTo exponent.natAbs
  else digits * tenTo exponent.toNat ≥ bound

/-- The number `digits * 10 ^ exponent`, or zero where that is all that a binary number of 64 bits
keeps of it. -/
def rounded (digits exponent : Int) : Decimal :=
  if exponent + digitCount digits.natAbs < -400 then ⟨0, 0⟩ else ofScientific digits exponent

def digitsAt (number : Decimal) (scale : Nat) : Int := number.digits * tenTo (scale - number.scale)

def add (a b : Decimal) : Decimal :=
  let scale := max a.scale b.scale
  ⟨a.digitsAt scale + b.digitsAt scale, scale⟩

instance : Add Decimal := ⟨add⟩

/-- Order of the values, whatever the scales. -/
def le (a b : Decimal) : Bool :=
  let scale := max a.scale b.scale
  a.digitsAt scale ≤ b.digitsAt scale

/-- Between which positions of the point the digits are written without an exponent. -/
structure Layout where
  low : Int
  high : Int

/-- Takes the zeros off the end of a number's digits and counts them. -/
def stripZeros : Nat → Nat → Nat × Nat
  | 0, value => (value, 0)
  | fuel + 1, value =>
    if value ≠ 0 ∧ value % 10 = 0 then
      let (stripped, count) := stripZeros fuel (value / 10)
      (stripped, count + 1)
    else (value, 0)

/-- The fewest digits, always with a point or an exponent. -/
def text (layout : Layout) (number : Decimal) : String :=
  if number.digits = 0 then "0.0"
  else
    let magnitude := number.digits.natAbs
    let (stripped, zeros) := stripZeros (Nat.repr magnitude).length magnitude
    let shown := (Nat.repr stripped).toList
    let exponent : Int := zeros - number.scale
    let point : Int := shown.length + exponent
    let unsigned : List Char :=
      if 0 ≤ exponent ∧ point ≤ layout.high then
        shown ++ List.replicate exponent.toNat '0' ++ ['.', '0']
      else if 0 < point ∧ point ≤ layout.high then
        shown.take point.toNat ++ '.' :: shown.drop point.toNat
      else if layout.low < point ∧ point ≤ 0 then
        '0' :: '.' :: List.replicate point.natAbs '0' ++ shown
      else
        let fraction := shown.drop 1
        shown.take 1 ++ (if fraction.isEmpty then [] else '.' :: fraction) ++
          'e' :: (toString (point - 1)).toList
    String.ofList (if number.digits < 0 then '-' :: unsigned else unsigned)

end Decimal

end WebhookOperator
