import Mathlib.Tactic.Ring
import Mathlib.Tactic.SplitIfs
import WebhookOperator.Cluster.Time
import WebhookOperator.Proofs.Form.Sound

/-!
# The text of a time

A time is written with a fixed number of digits in each of its parts.  So many digits in front of any
text are read as the number that they were written from, and the text is left; the parts of a time
are read one after the other in this way.  The part after the second is as long as it has to be, and
its digits count from the left.

* `readDigits_digitsOf`, `readBelow_digitsOf`: digits read back
* `ofText?_text`: **the text of a time reads as the time**
* `Timestamp.sound`: so a time has a sound form
-/

namespace WebhookOperator.Timestamp

open Outline (marks IsWord)

/-! ### Digits -/

theorem isDigit_digitChar_mod (value : Nat) : (Nat.digitChar (value % 10)).isDigit := by
  rw [Nat.isDigit_digitChar, decide_eq_true_iff]
  exact Nat.mod_lt _ (by decide)

theorem toNat_digitChar_mod (value : Nat) :
    (Nat.digitChar (value % 10)).toNat - '0'.toNat = value % 10 := by
  rw [Nat.toNat_digitChar_of_lt_ten (Nat.mod_lt _ (by decide))]
  exact Nat.add_sub_cancel_left _ _

theorem digitsOf_succ (count value : Nat) :
    digitsOf (count + 1) value =
      Nat.digitChar (value / 10 ^ count % 10) :: digitsOf count value := rfl

theorem readDigits_digitsOf (count sofar value : Nat) (rest : List Char) :
    readDigits count sofar (digitsOf count value ++ rest) =
      some (sofar * 10 ^ count + value % 10 ^ count, rest) := by
  induction count generalizing sofar with
  | zero => simp [readDigits, digitsOf, Nat.mod_one]
  | succ count ih =>
    have hvalue : (sofar * 10 + value / 10 ^ count % 10) * 10 ^ count + value % 10 ^ count =
        sofar * 10 ^ (count + 1) + value % 10 ^ (count + 1) := by
      rw [Nat.mod_pow_succ]
      ring
    rw [digitsOf_succ, List.cons_append, readDigits, if_pos (isDigit_digitChar_mod _),
      toNat_digitChar_mod, ih, hvalue]

/-- A number that is not too long for its digits. -/
theorem readDigits_of_lt {count value : Nat} (h : value < 10 ^ count) (rest : List Char) :
    readDigits count 0 (digitsOf count value ++ rest) = some (value, rest) := by
  rw [readDigits_digitsOf, Nat.zero_mul, Nat.zero_add, Nat.mod_eq_of_lt h]

/-- Digits below a unit read back, with the text after them. -/
theorem readBelow_digitsOf (count more sofar value : Nat) {c : Char} (hc : ¬c.isDigit)
    (rest : List Char) :
    readBelow (10 ^ (count + more)) sofar (digitsOf count value ++ c :: rest) =
      (sofar + value % 10 ^ count * 10 ^ more, c :: rest) := by
  induction count generalizing sofar with
  | zero => simp [readBelow, digitsOf, hc, Nat.mod_one]
  | succ count ih =>
    have hunit : 10 ^ (count + 1 + more) / 10 = 10 ^ (count + more) := by
      rw [Nat.add_right_comm, Nat.pow_succ, Nat.mul_div_cancel _ (by decide)]
    have hvalue : sofar + value / 10 ^ count % 10 * 10 ^ (count + more) +
        value % 10 ^ count * 10 ^ more = sofar + value % 10 ^ (count + 1) * 10 ^ more := by
      rw [Nat.mod_pow_succ]
      ring
    rw [digitsOf_succ, List.cons_append, readBelow, if_pos (isDigit_digitChar_mod _), hunit,
      toNat_digitChar_mod, ih, hvalue]

/-- The digits after a point make up a part of a second. -/
theorem readFraction?_point (count more : Nat) {value : Nat} (hcount : 0 < count)
    (hunit : count + more = 9) (hvalue : value < 10 ^ count) :
    readFraction? ('.' :: digitsOf count value ++ ['Z']) = some (value * 10 ^ more, ['Z']) := by
  have hnotDigit : ¬Char.isDigit 'Z' := by decide
  have hread := readBelow_digitsOf count more 0 value hnotDigit []
  rw [hunit, Nat.zero_add, Nat.mod_eq_of_lt hvalue] at hread
  have hhead : (digitsOf count value ++ ['Z']).head?.any Char.isDigit := by
    obtain ⟨count, rfl⟩ := Nat.exists_eq_add_of_lt hcount
    rw [Nat.zero_add, digitsOf_succ]
    exact isDigit_digitChar_mod _
  rw [List.cons_append, readFraction?, if_pos hhead]
  exact congrArg some hread

theorem readFraction?_fraction {nanos : Nat} (h : nanos < 1000000000) :
    readFraction? (fraction nanos ++ ['Z']) = some (nanos, ['Z']) := by
  rw [fraction]
  split_ifs with hzero hmillis hmicros
  · rw [hzero]
    rfl
  · have hvalue : nanos / 1000000 * 10 ^ 6 = nanos := by omega
    rw [readFraction?_point 3 6 (by decide) rfl (by omega), hvalue]
  · have hvalue : nanos / 1000 * 10 ^ 3 = nanos := by omega
    rw [readFraction?_point 6 3 (by decide) rfl (by omega), hvalue]
  · rw [readFraction?_point 9 0 (by decide) rfl h, Nat.pow_zero, Nat.mul_one]

/-! ### Times -/

theorem of?_eq (time : Timestamp) :
    of? time.year time.month time.day time.hour time.minute time.second time.nanos = some time := by
  rw [of?, dif_pos time.isDate, dif_pos time.isClock]

theorem before?_zero (time : Timestamp) : time.before? 0 = some time := by
  obtain ⟨hhour, hminute, -⟩ := time.isClock
  have hclock : ((time.hour : Int) * 60 + time.minute - 0) % 1440 =
      ((time.hour * 60 + time.minute : Nat) : Int) := by omega
  have hhours : (time.hour * 60 + time.minute) / 60 = time.hour := by omega
  have hminutes : (time.hour * 60 + time.minute) % 60 = time.minute := by omega
  have hnotBefore : ¬(time.hour : Int) * 60 + time.minute - 0 < 0 := by omega
  have hnotAfter : ¬(1440 : Int) ≤ time.hour * 60 + time.minute - 0 := by omega
  simp only [before?, if_neg hnotBefore, if_neg hnotAfter, Option.bind_eq_bind, Option.bind_some,
    hclock, Int.toNat_natCast, hhours, hminutes, of?_eq]

theorem day_lt (time : Timestamp) : time.day < 10 ^ 2 := by
  obtain ⟨-, -, -, -, hday⟩ := time.isDate
  have hdays : daysIn time.year time.month ≤ 31 := by
    rw [daysIn]
    split_ifs <;> decide
  omega

theorem after?_cons (mark : Char) (marks rest : List Char) :
    after? (mark :: marks) (mark :: rest) = some rest :=
  if_pos List.mem_cons_self

theorem readDate?_dateText (time : Timestamp) (rest : List Char) :
    readDate? (time.dateText ++ rest) = some ((time.year, time.month, time.day), rest) := by
  obtain ⟨hyear, -, hmonth, -, -⟩ := time.isDate
  have hyear : time.year < 10 ^ 4 := hyear
  have hmonth : time.month < 10 ^ 2 := by omega
  simp only [readDate?, dateText, List.append_assoc, List.cons_append, Option.bind_eq_bind,
    Option.bind_some, readDigits_of_lt hyear, after?_cons, readDigits_of_lt hmonth,
    readDigits_of_lt time.day_lt]
  rfl

theorem readClock?_clockText (time : Timestamp) :
    readClock? (time.clockText ++ ['Z']) =
      some ((time.hour, time.minute, time.second, time.nanos), ['Z']) := by
  obtain ⟨hhour, hminute, hsecond, hnanos⟩ := time.isClock
  have hhour : time.hour < 10 ^ 2 := by omega
  have hminute : time.minute < 10 ^ 2 := by omega
  have hsecond : time.second < 10 ^ 2 := by omega
  simp only [readClock?, clockText, List.append_assoc, List.cons_append, Option.bind_eq_bind,
    Option.bind_some, readDigits_of_lt hhour, after?_cons, readDigits_of_lt hminute,
    readDigits_of_lt hsecond, readFraction?_fraction hnanos]
  rfl

/-- **The text of a time reads as the time.** -/
theorem ofText?_text (time : Timestamp) : ofText? time.text = some time := by
  simp only [ofText?, text, String.toList_ofList, Option.bind_eq_bind, Option.bind_some,
    readDate?_dateText, after?_cons, readClock?_clockText, of?_eq]
  exact time.before?_zero

/-- A time with another offset, on another day in UTC. -/
example : (ofText? "2024-02-29t23:30:00.25-02:30").map text = some "2024-03-01T02:00:00.250Z" := by
  decide +kernel

/-! ### The form of a time -/

theorem isDigit_of_mem_digitsOf {count value : Nat} {c : Char} (h : c ∈ digitsOf count value) :
    c.isDigit := by
  induction count with
  | zero => cases h
  | succ count ih =>
    rcases List.mem_cons.1 h with rfl | hmem
    · exact isDigit_digitChar_mod _
    · exact ih hmem

/-- The characters of a time that are no digits. -/
def signs : List Char := ['-', 'T', ':', '.', 'Z']

theorem mem_text {time : Timestamp} {c : Char} (h : c ∈ time.text.toList) :
    c.isDigit ∨ c ∈ signs := by
  have hdigits {count value : Nat} (hmem : c ∈ digitsOf count value) : c.isDigit ∨ c ∈ signs :=
    Or.inl (isDigit_of_mem_digitsOf hmem)
  have hfraction (hmem : c ∈ fraction time.nanos) : c.isDigit ∨ c ∈ signs := by
    rw [fraction] at hmem
    split_ifs at hmem
    · cases hmem
    all_goals
      rcases List.mem_cons.1 hmem with rfl | hmem
      · exact Or.inr (by decide)
      · exact hdigits hmem
  simp only [text, dateText, clockText, String.toList_ofList, List.mem_append, List.mem_cons,
    List.not_mem_nil, or_false] at h
  rcases h with (h | rfl | h | rfl | h) | rfl | (h | rfl | h | rfl | h | h) | rfl
  all_goals first | exact Or.inr (by decide) | exact hdigits h | exact hfraction h

theorem isWord_text (time : Timestamp) : IsWord time.text := by
  rw [Outline.isWord_iff]
  refine ⟨by simp [text, dateText, digitsOf], fun c hmem => ?_⟩
  rcases mem_text hmem with hdigit | hsign
  · exact Outline.not_mem_marks_of_isDigit hdigit
  · have hmarks : ∀ c ∈ signs, c ∉ marks := by simp [signs, marks]
    exact hmarks c hsign

instance sound : form.Sound where
  lawful := {
    decode_encode := ofText?_text
    encode_ne_null := fun _ => by simp [form]
    sorted_encode := fun _ => by simp [form, Json.Sorted] }
  legible := {
    plain := fun time => .wrapped (by decide) (.word (isWord_text time))
    injective := fun time other heq => by
      have htext : time.text = other.text := Outline.word.inj (Outline.wrapped.inj heq).2
      rw [← Option.some_inj, ← ofText?_text time, ← ofText?_text other, htext] }

end WebhookOperator.Timestamp
