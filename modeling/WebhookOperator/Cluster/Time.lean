import WebhookOperator.Form

/-!
# Times

A time is written as a date and a time of day in UTC, `2024-05-01T08:30:00Z`, with three, six or nine
digits of a second after a point where it falls between two seconds. It may be read with another
offset from UTC, `2024-05-01T10:30:00+02:00`, and is then the same time in UTC.
-/

namespace WebhookOperator

def isLeapYear (year : Nat) : Bool := year % 4 == 0 && (year % 100 != 0 || year % 400 == 0)

def daysIn (year month : Nat) : Nat :=
  if month = 2 then if isLeapYear year then 29 else 28
  else if month ∈ [4, 6, 9, 11] then 30 else 31

/-- A point in time, in UTC. A minute may have a leap second. -/
structure Timestamp where
  year : Nat
  month : Nat
  day : Nat
  hour : Nat
  minute : Nat
  second : Nat
  nanos : Nat
  isDate : year < 10000 ∧ 1 ≤ month ∧ month ≤ 12 ∧ 1 ≤ day ∧ day ≤ daysIn year month
  isClock : hour < 24 ∧ minute < 60 ∧ second ≤ 60 ∧ nanos < 1000000000
deriving DecidableEq

namespace Timestamp

instance : Inhabited Timestamp := ⟨1970, 1, 1, 0, 0, 0, 0, by decide, by decide⟩

/-! ### Writing -/

/-- The last digits of a number, so many of them. -/
def digitsOf : Nat → Nat → List Char
  | 0, _ => []
  | count + 1, value => Nat.digitChar (value / Decimal.tenTo count % 10) :: digitsOf count value

def fraction (nanos : Nat) : List Char :=
  if nanos = 0 then []
  else if nanos % 1000000 = 0 then '.' :: digitsOf 3 (nanos / 1000000)
  else if nanos % 1000 = 0 then '.' :: digitsOf 6 (nanos / 1000)
  else '.' :: digitsOf 9 nanos

def dateText (time : Timestamp) : List Char :=
  digitsOf 4 time.year ++ '-' :: (digitsOf 2 time.month ++ '-' :: digitsOf 2 time.day)

def clockText (time : Timestamp) : List Char :=
  digitsOf 2 time.hour ++ ':' ::
    (digitsOf 2 time.minute ++ ':' :: (digitsOf 2 time.second ++ fraction time.nanos))

def text (time : Timestamp) : String :=
  String.ofList (time.dateText ++ 'T' :: (time.clockText ++ ['Z']))

/-! ### Reading -/

/-- The number that so many digits make after a number so far, and the text after them. -/
def readDigits : Nat → Nat → List Char → Option (Nat × List Char)
  | 0, value, rest => some (value, rest)
  | count + 1, value, c :: rest =>
    if c.isDigit then readDigits count (value * 10 + (c.toNat - '0'.toNat)) rest else none
  | _ + 1, _, [] => none

/-- The text after one of some marks. -/
def after? (marks : List Char) : List Char → Option (List Char)
  | c :: rest => if c ∈ marks then some rest else none
  | [] => none

/-- The number that digits make below a unit, as far as they count, and the text after them. -/
def readBelow (unit value : Nat) : List Char → Nat × List Char
  | c :: rest =>
    if c.isDigit then readBelow (unit / 10) (value + (c.toNat - '0'.toNat) * (unit / 10)) rest
    else (value, c :: rest)
  | [] => (value, [])

def readFraction? : List Char → Option (Nat × List Char)
  | '.' :: rest =>
    if rest.head?.any Char.isDigit then some (readBelow 1000000000 0 rest) else none
  | rest => some (0, rest)

def readDate? (chars : List Char) : Option ((Nat × Nat × Nat) × List Char) := do
  let (year, rest) ← readDigits 4 0 chars
  let (month, rest) ← readDigits 2 0 (← after? ['-'] rest)
  let (day, rest) ← readDigits 2 0 (← after? ['-'] rest)
  return ((year, month, day), rest)

def readClock? (chars : List Char) : Option ((Nat × Nat × Nat × Nat) × List Char) := do
  let (hour, rest) ← readDigits 2 0 chars
  let (minute, rest) ← readDigits 2 0 (← after? [':'] rest)
  let (second, rest) ← readDigits 2 0 (← after? [':'] rest)
  let (nanos, rest) ← readFraction? rest
  return ((hour, minute, second, nanos), rest)

/-- The minutes by which a time of day is ahead of UTC. -/
def readOffset? : List Char → Option Int
  | ['Z'] | ['z'] => some 0
  | sign :: rest => do
    let (hours, rest) ← readDigits 2 0 rest
    let (minutes, rest) ← readDigits 2 0 (← after? [':'] rest)
    if rest.isEmpty ∧ hours < 24 ∧ minutes < 60 then
      match sign with
      | '+' => some (hours * 60 + minutes)
      | '-' => some (-(hours * 60 + minutes))
      | _ => none
    else none
  | [] => none

/-- The time of a date and a time of day, if there are such. -/
def of? (year month day hour minute second nanos : Nat) : Option Timestamp :=
  if isDate : year < 10000 ∧ 1 ≤ month ∧ month ≤ 12 ∧ 1 ≤ day ∧ day ≤ daysIn year month then
    if isClock : hour < 24 ∧ minute < 60 ∧ second ≤ 60 ∧ nanos < 1000000000 then
      some { year, month, day, hour, minute, second, nanos, isDate, isClock }
    else none
  else none

def dayBefore? (year month day : Nat) : Option (Nat × Nat × Nat) :=
  if 1 < day then some (year, month, day - 1)
  else if 1 < month then some (year, month - 1, daysIn year (month - 1))
  else if 0 < year then some (year - 1, 12, 31)
  else none

def dayAfter (year month day : Nat) : Nat × Nat × Nat :=
  if day < daysIn year month then (year, month, day + 1)
  else if month < 12 then (year, month + 1, 1)
  else (year + 1, 1, 1)

/-- The time some minutes before, less than a day. -/
def before? (time : Timestamp) (minutes : Int) : Option Timestamp := do
  let clock : Int := time.hour * 60 + time.minute - minutes
  let (year, month, day) ←
    if clock < 0 then dayBefore? time.year time.month time.day
    else if 1440 ≤ clock then some (dayAfter time.year time.month time.day)
    else some (time.year, time.month, time.day)
  let clock := (clock % 1440).toNat
  of? year month day (clock / 60) (clock % 60) time.second time.nanos

def ofText? (text : String) : Option Timestamp := do
  let ((year, month, day), rest) ← readDate? text.toList
  let ((hour, minute, second, nanos), rest) ← readClock? (← after? ['T', 't', ' '] rest)
  let time ← of? year month day hour minute second nanos
  time.before? (← readOffset? rest)

def form : Form Timestamp where
  codec := {
    decode := fun document => document.string?.bind ofText?
    encode := fun time => .str time.text }
  outline time := .wrapped "Time" (.word time.text)

end Timestamp

end WebhookOperator
