import Mathlib.Data.List.Basic
import WebhookOperator.Proofs.Outline.Unambiguous

/-!
# Legible outlines

A way to outline values is legible when its outlines are plain and differ for different values.
Then the values can be told by their texts alone.

* `Legible.quoted`, `Legible.bool`, `Legible.int`: single values
* `Legible.option`, `Legible.listOf`, `Legible.dict`: values made of others
* `Legible.text_injective`: **values with a legible outline can be told by their texts**
-/

namespace WebhookOperator.Outline

variable {α β : Type}

/-- Outlines that are plain and that differ for different values. -/
structure Legible (outline : α → Outline) : Prop where
  plain : ∀ value, (outline value).Plain
  injective : Function.Injective outline

namespace Legible

/-- **Values with a legible outline can be told by their texts.** -/
theorem text_injective {outline : α → Outline} (h : Legible outline) :
    Function.Injective fun value => (outline value).text :=
  fun value other heq => h.injective ((h.plain value).eq_of_text_eq (h.plain other) heq)

/-! ### Single values -/

theorem quoted : Legible Outline.quoted where
  plain := .quoted
  injective _ _ heq := Outline.quoted.inj heq

theorem bool : Legible Outline.bool where
  plain value := by cases value <;> exact .word (by decide)
  injective value other heq := by
    have hword := Outline.word.inj heq
    cases value <;> cases other <;> first | rfl | exact absurd hword (by decide)

end Legible

theorem not_mem_marks_of_isDigit {c : Char} (h : c.isDigit) : c ∉ marks := by
  intro hmem
  have hmarks : ∀ mark ∈ marks, mark.isDigit = false := by simp [marks]
  rw [hmarks c hmem] at h
  contradiction

theorem isDigit_of_mem_natRepr {number : Nat} {c : Char} (h : c ∈ number.repr.toList) :
    c.isDigit := by
  rw [Nat.toList_repr] at h
  exact Nat.isDigit_of_mem_toDigits (by decide) (by decide) h

theorem isWord_natRepr (number : Nat) : IsWord number.repr := by
  rw [isWord_iff]
  refine ⟨?_, fun c hmem => not_mem_marks_of_isDigit (isDigit_of_mem_natRepr hmem)⟩
  rw [Nat.toList_repr]
  exact Nat.toDigits_ne_nil

theorem isWord_intRepr (number : Int) : IsWord number.repr := by
  rw [Int.repr_eq_if]
  split
  · exact isWord_natRepr _
  · have hdigits := isWord_natRepr (-number).toNat
    rw [isWord_iff, String.toList_append]
    refine ⟨by simp, fun c hmem => ?_⟩
    rcases List.mem_append.1 hmem with hsign | hmem
    · obtain rfl : c = '-' := by simpa using hsign
      decide
    · exact hdigits.not_mem_marks c hmem

theorem natRepr_inj {m n : Nat} (h : m.repr = n.repr) : m = n := by
  have hdigits := congrArg String.toList h
  rw [Nat.toList_repr, Nat.toList_repr] at hdigits
  exact Text.toDigits_inj (by decide) (by decide) hdigits

theorem natRepr_ne_minus (number : Nat) (text : String) : number.repr ≠ "-" ++ text := by
  intro heq
  have hmem : '-' ∈ number.repr.toList := by simp [heq, String.toList_append]
  exact absurd (isDigit_of_mem_natRepr hmem) (by decide)

theorem intRepr_inj {m n : Int} (h : m.repr = n.repr) : m = n := by
  rw [Int.repr_eq_if, Int.repr_eq_if] at h
  split at h <;> split at h
  · have := natRepr_inj h
    omega
  · exact absurd h (natRepr_ne_minus _ _)
  · exact absurd h.symm (natRepr_ne_minus _ _)
  · have hchars := congrArg String.toList h
    rw [String.toList_append, String.toList_append] at hchars
    have := natRepr_inj (String.toList_inj.1 (List.append_cancel_left hchars))
    omega

namespace Legible

theorem int : Legible Outline.int where
  plain number := .word (Int.toString_eq_repr ▸ isWord_intRepr number)
  injective number other heq := by
    have hword := Outline.word.inj heq
    rw [Int.toString_eq_repr, Int.toString_eq_repr] at hword
    exact intRepr_inj hword

/-! ### Values made of others -/

/-- A value that is outlined by another one that determines it. -/
theorem comp {outline : β → Outline} (h : Legible outline) {get : α → β}
    (hget : Function.Injective get) : Legible fun value => outline (get value) where
  plain value := h.plain (get value)
  injective := h.injective.comp hget

theorem wrapped {outline : α → Outline} (h : Legible outline) {name : String}
    (hname : IsWord name) : Legible fun value => Outline.wrapped name (outline value) where
  plain value := .wrapped hname (h.plain value)
  injective _ _ heq := h.injective (Outline.wrapped.inj heq).2

theorem option {outline : α → Outline} (h : Legible outline) :
    Legible (Outline.option outline) where
  plain value := by
    cases value with
    | none => exact .word (by decide)
    | some value => exact .wrapped (by decide) (h.plain value)
  injective value other heq := by
    cases value with
    | none =>
      cases other with
      | none => rfl
      | some other => cases heq
    | some value =>
      cases other with
      | none => cases heq
      | some other => exact congrArg some (h.injective (Outline.wrapped.inj heq).2)

theorem listOf {outline : α → Outline} (h : Legible outline) : Legible (Outline.listOf outline) where
  plain values := by
    refine .list fun item hmem => ?_
    obtain ⟨value, -, rfl⟩ := List.mem_map.1 hmem
    exact h.plain value
  injective values others heq := h.injective.list_map (Outline.list.inj heq)

theorem dict {outline : α → Outline} (h : Legible outline) : Legible (Outline.dict outline) where
  plain values := by
    refine .map fun entry hmem => ?_
    obtain ⟨entry, -, rfl⟩ := List.mem_map.1 hmem
    exact h.plain entry.2
  injective values others heq := by
    have hentry : Function.Injective fun entry : String × α => (entry.1, outline entry.2) := by
      intro entry other heq
      obtain ⟨hkey, hvalue⟩ := Prod.mk.inj heq
      exact Prod.ext hkey (h.injective hvalue)
    have hentries := hentry.list_map (Outline.map.inj heq)
    exact Dict.ext_get? fun key => by rw [Dict.get?, Dict.get?, hentries]

end Legible

end WebhookOperator.Outline
