import Mathlib.Data.List.Induction
import WebhookOperator.Json.Patch

/-!
# Places of a document

A step of a pointer names the member of an object or the item of an array.  An item has one step
only, since a position is written without a leading zero, so two different steps never lead to the
same place.

A change is done where its last step leads, and on the way there every document is put together
again around what its child has become.  `changeChild` is one step of that way.

* `Pointer.position?_eq_some_iff`: the step of a position
* `child?_changeChild_self`, `child?_changeChild_of_ne`: what is changed and what is not
* `follow?_changePlace`: places that are apart from the one that is changed
-/

namespace WebhookOperator.Json

/-! ### Positions -/

namespace Pointer

theorem head?_toDigits {number : Nat} (h : (Nat.toDigits 10 number).head? = some '0') :
    number = 0 := by
  induction number using Nat.strongRecOn with
  | ind number ih =>
    rw [Nat.toDigits_eq_if (by decide)] at h
    split at h
    next hlt => simpa using h
    next hge =>
      rw [List.head?_append, Option.or_of_isSome (by simp)] at h
      have := ih (number / 10) (by omega) h
      omega

theorem toNat_of_isDigit {c : Char} (h : c.isDigit) : 48 ≤ c.toNat ∧ c.toNat ≤ 57 :=
  Char.isDigit_iff_toNat.1 h

theorem digitChar_toNat_sub {c : Char} (h : c.isDigit) : Nat.digitChar (c.toNat - 48) = c := by
  have hrange := toNat_of_isDigit h
  refine Char.toNat_inj.1 ?_
  rw [Nat.toNat_digitChar_of_lt_ten (by omega)]
  omega

/-- Digits without a leading zero are those of the number that they say. -/
theorem toDigits_ofDigitChars {chars : List Char} (hnil : chars ≠ [])
    (hdigits : ∀ c ∈ chars, c.isDigit) (hzero : chars.head? = some '0' → chars.length ≤ 1) :
    Nat.toDigits 10 (Nat.ofDigitChars 10 chars 0) = chars := by
  induction chars using List.reverseRecOn with
  | nil => exact absurd rfl hnil
  | append_singleton chars c ih =>
    have hc : c.isDigit := hdigits c (by simp)
    have hlt : c.toNat - 48 < 10 := by
      have := toNat_of_isDigit hc
      omega
    have hlast : Nat.toDigits 10 (c.toNat - 48) = [c] := by
      rw [Nat.toDigits_of_lt_base hlt, digitChar_toNat_sub hc]
    rw [Nat.ofDigitChars_append, Nat.ofDigitChars_cons, Nat.ofDigitChars_nil]
    by_cases hchars : chars = []
    · subst hchars
      simpa using hlast
    · -- the digits before the last one do not start with a zero either, so they say no zero
      have hhead : chars.head? ≠ some '0' := fun hhead => by
        have hlength := hzero (by rw [List.head?_append, hhead]; rfl)
        have := List.length_pos_iff.2 hchars
        rw [List.length_append, List.length_singleton] at hlength
        omega
      have hdigits := ih hchars (fun other hmem => hdigits other (List.mem_append_left _ hmem))
        fun h => absurd h hhead
      have hpos : 0 < Nat.ofDigitChars 10 chars 0 := by
        refine Nat.pos_of_ne_zero fun hnumber => hhead ?_
        rw [← hdigits, hnumber]
        rfl
      have hsplit := Nat.toDigits_append_toDigits (by decide : 1 < 10) hpos hlt
      rw [hdigits, hlast] at hsplit
      exact hsplit.symm

theorem position?_eq (step : String) :
    position? step =
      if step.toList ≠ [] ∧ step.toList.all Char.isDigit ∧
        (step.toList.head? = some '0' → step.toList.length ≤ 1)
      then some (Nat.ofDigitChars 10 step.toList 0) else none := by
  have hvalue : step.toList.foldl (fun value c => value * 10 + (c.toNat - '0'.toNat)) 0 =
      Nat.ofDigitChars 10 step.toList 0 := by
    simp only [Nat.ofDigitChars_eq_foldl, Nat.mul_comm 10]
  rw [position?, hvalue]
  generalize step.toList = chars
  cases hdigits : chars.all Char.isDigit with
  | false => simp
  | true =>
    by_cases hnil : chars = []
    · simp [hnil]
    · by_cases hzero : chars.head? = some '0'
      · by_cases hlength : chars.length ≤ 1 <;> simp [hnil, hzero, hlength]
      · simp [hnil, hzero]

/-- The one step that leads to an item. -/
theorem position?_eq_some_iff {step : String} {position : Nat} :
    position? step = some position ↔ step = Nat.repr position := by
  rw [position?_eq]
  constructor
  · intro h
    split at h
    next hchars =>
      obtain rfl := Option.some.inj h
      refine String.toList_inj.1 ?_
      rw [Nat.toList_repr, toDigits_ofDigitChars hchars.1 (List.all_eq_true.1 hchars.2.1) hchars.2.2]
    · cases h
  · rintro rfl
    rw [Nat.toList_repr, if_pos, Nat.ofDigitChars_ten_toDigits]
    refine ⟨Nat.toDigits_ne_nil, List.all_eq_true.2 fun c hmem =>
      Nat.isDigit_of_mem_toDigits (by decide) (by decide) hmem, fun hhead => ?_⟩
    rw [head?_toDigits hhead]
    decide

theorem flatMap_escapeChar {chars : List Char} (h : ∀ c ∈ chars, c.isDigit) :
    chars.flatMap escapeChar = chars := by
  induction chars with
  | nil => rfl
  | cons c chars ih =>
    have hc : c.isDigit := h c List.mem_cons_self
    have htilde : c ≠ '~' := by
      rintro rfl
      exact absurd hc (by decide)
    have hslash : c ≠ '/' := by
      rintro rfl
      exact absurd hc (by decide)
    rw [List.flatMap_cons, ih fun other hmem => h other (List.mem_cons_of_mem _ hmem), escapeChar,
      if_neg htilde, if_neg hslash]
    rfl

end Pointer

/-! ### One step of a change -/

def changeChild (change : Json → Option Json) (step : String) : Json → Option Json
  | .obj members => do
    let value ← members.lookup step
    return .obj (Entries.insert step (← change value) members)
  | .arr items => do
    let position ← Pointer.position? step
    let item ← items[position]?
    return .arr (items.set position (← change item))
  | _ => none

theorem changeAt_cons (change : String → Json → Option Json) (last step : String)
    (steps : List String) (document : Json) :
    changeAt change last (step :: steps) document =
      changeChild (changeAt change last steps) step document := by
  cases document <;> rfl

@[simp] theorem changePlace_singleton (change : String → Json → Option Json) (whole : Option Json)
    (step : String) (document : Json) :
    changePlace change whole ⟨[step]⟩ document = change step document := rfl

theorem changePlace_cons {steps : List String} (h : steps ≠ [])
    (change : String → Json → Option Json) (whole : Option Json) (step : String) (document : Json) :
    changePlace change whole ⟨step :: steps⟩ document =
      changeChild (changePlace change whole ⟨steps⟩) step document := by
  obtain ⟨next, steps, rfl⟩ := List.exists_cons_of_ne_nil h
  have hlast : ((next :: steps).getLast?).isSome := by simp
  obtain ⟨last, hlast⟩ := Option.isSome_iff_exists.1 hlast
  have hchange : changePlace change whole ⟨next :: steps⟩ =
      changeAt change last (next :: steps).dropLast := by
    funext document
    rw [changePlace, hlast]
  rw [hchange, ← changeAt_cons, changePlace, List.getLast?_cons_cons, hlast, List.dropLast_cons_cons]

/-- Where the changed child was, there is now what has become of it. -/
theorem child?_changeChild_self {change : Json → Option Json} {step : String}
    {document changed : Json} (h : changeChild change step document = some changed) :
    ∃ value value', document.child? step = some value ∧ change value = some value' ∧
      changed.child? step = some value' := by
  cases document with
  | obj members =>
    obtain ⟨value, hvalue, h⟩ := Option.bind_eq_some_iff.1 h
    obtain ⟨value', hvalue', h⟩ := Option.bind_eq_some_iff.1 h
    cases h
    exact ⟨value, value', hvalue, hvalue', by simp [child?, Entries.lookup_insert]⟩
  | arr items =>
    obtain ⟨position, hposition, h⟩ := Option.bind_eq_some_iff.1 h
    obtain ⟨value, hvalue, h⟩ := Option.bind_eq_some_iff.1 h
    obtain ⟨value', hvalue', h⟩ := Option.bind_eq_some_iff.1 h
    cases h
    have hlt : position < items.length := (List.getElem?_eq_some_iff.1 hvalue).1
    exact ⟨value, value', by simp [child?, hposition, hvalue], hvalue', by
      simp [child?, hposition, hlt]⟩
  | _ => cases h

/-- Two steps that lead into an array lead to different positions. -/
theorem position_ne_of_ne {step other : String} {position found : Nat}
    (hstep : Pointer.position? step = some position)
    (hother : Pointer.position? other = some found) (hne : other ≠ step) : position ≠ found := by
  rintro rfl
  rw [Pointer.position?_eq_some_iff] at hstep hother
  exact hne (hother.trans hstep.symm)

theorem child?_set_of_ne {items : List Json} {step other : String} {position : Nat}
    (hstep : Pointer.position? step = some position) (hne : other ≠ step) (value : Json) :
    (arr (items.set position value)).child? other = (arr items).child? other := by
  rw [child?, child?]
  cases hother : Pointer.position? other with
  | none => rfl
  | some found =>
    simp [List.getElem?_set_ne (position_ne_of_ne hstep hother hne)]

theorem child?_insert_of_ne {members : Entries Json} {step other : String} (hne : other ≠ step)
    (value : Json) :
    (obj (Entries.insert step value members)).child? other = (obj members).child? other := by
  rw [child?, child?, Entries.lookup_insert, if_neg hne]

/-- No other child is touched. -/
theorem child?_changeChild_of_ne {change : Json → Option Json} {step other : String}
    {document changed : Json} (h : changeChild change step document = some changed)
    (hne : other ≠ step) : changed.child? other = document.child? other := by
  cases document with
  | obj members =>
    obtain ⟨value, _, h⟩ := Option.bind_eq_some_iff.1 h
    obtain ⟨value', _, h⟩ := Option.bind_eq_some_iff.1 h
    cases h
    exact child?_insert_of_ne hne value'
  | arr items =>
    obtain ⟨position, hposition, h⟩ := Option.bind_eq_some_iff.1 h
    obtain ⟨value, _, h⟩ := Option.bind_eq_some_iff.1 h
    obtain ⟨value', _, h⟩ := Option.bind_eq_some_iff.1 h
    cases h
    exact child?_set_of_ne hposition hne value'
  | _ => cases h

/-! ### What a change leaves alone -/

/-- Two places of which neither holds the other. -/
def Apart (place other : List String) : Prop := ¬place <+: other ∧ ¬other <+: place

/-- A change at a last step that touches no other child. -/
def KeepsOthers (change : String → Json → Option Json) (last : String) : Prop :=
  ∀ document changed other, change last document = some changed → other ≠ last →
    changed.child? other = document.child? other

theorem follow?_changePlace {change : String → Json → Option Json} {whole : Option Json}
    {site rest : List String} (hkeep : rest = [] → ∀ last, site.getLast? = some last →
      KeepsOthers change last)
    {document changed : Json} (h : changePlace change whole ⟨site ++ rest⟩ document = some changed)
    {place : List String} (hapart : Apart site place) :
    changed.follow? place = document.follow? place := by
  induction site generalizing document changed place with
  | nil => exact absurd List.nil_prefix hapart.1
  | cons step site ih =>
    cases place with
    | nil => exact absurd List.nil_prefix hapart.2
    | cons other place =>
      rw [follow?, follow?]
      by_cases heq : other = step
      · -- the place goes on below the same child, where the rest of the site lies
        subst heq
        have hapart : Apart site place :=
          ⟨fun h => hapart.1 (List.cons_prefix_cons.2 ⟨rfl, h⟩),
            fun h => hapart.2 (List.cons_prefix_cons.2 ⟨rfl, h⟩)⟩
        have hsite : site ≠ [] := fun hnil => hapart.1 (hnil ▸ List.nil_prefix)
        have hsteps : site ++ rest ≠ [] := fun hnil => hsite (List.append_eq_nil_iff.1 hnil).1
        rw [List.cons_append, changePlace_cons hsteps] at h
        obtain ⟨value, value', hvalue, hchange, hvalue'⟩ := child?_changeChild_self h
        rw [hvalue, hvalue', Option.bind_some, Option.bind_some]
        refine ih (fun hrest last hlast => hkeep hrest last ?_) hchange hapart
        rw [List.getLast?_cons, hlast, Option.getD_some]
      · suffices hchild : changed.child? other = document.child? other by rw [hchild]
        by_cases hsteps : site ++ rest = []
        · obtain ⟨rfl, rfl⟩ := List.append_eq_nil_iff.1 hsteps
          exact hkeep rfl step rfl document changed other h heq
        · rw [List.cons_append, changePlace_cons hsteps] at h
          exact child?_changeChild_of_ne h heq

theorem keepsOthers_putChild {step : String} (hposition : Pointer.position? step = none)
    (hend : step ≠ "-") (value : Json) : KeepsOthers (putChild value) step := by
  intro document changed other h hne
  cases document with
  | obj members =>
    cases h
    exact child?_insert_of_ne hne value
  | arr items => simp [putChild, hend, hposition] at h
  | _ => cases h

/-- Nothing is shifted where the member of an object is taken out. -/
theorem keepsOthers_dropChild {step : String} (hposition : Pointer.position? step = none) :
    KeepsOthers dropChild step := by
  intro document changed other h hne
  cases document with
  | obj members =>
    rw [dropChild] at h
    split at h
    · cases h
      rw [child?, child?, Entries.lookup_erase, if_neg hne]
    · cases h
  | arr items => simp [dropChild, hposition] at h
  | _ => cases h

theorem keepsOthers_swapChild (step : String) (value : Json) : KeepsOthers (swapChild value) step := by
  intro document changed other h hne
  cases document with
  | obj members =>
    rw [swapChild] at h
    split at h
    · cases h
      exact child?_insert_of_ne hne value
    · cases h
  | arr items =>
    obtain ⟨position, hposition, h⟩ := Option.bind_eq_some_iff.1 h
    split at h
    · cases h
      exact child?_set_of_ne hposition hne value
    · cases h
  | _ => cases h

end WebhookOperator.Json
