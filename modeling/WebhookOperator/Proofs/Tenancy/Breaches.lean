import Mathlib.Data.List.Induction
import WebhookOperator.Proofs.Tenancy.Rules

/-!
# The first breach of the mapping table

The check of a table stops at the first claim that breaks a rule, with no look at what comes later.
This file says which breach that is without the walk over the claims.  A claim breaks a rule at its
place: it is made on the control namespace, or else there is a claim of the same sort on the same name
at an earlier place.  What is reported is the breach at the first place that has one.

* `Breaks`: the breach at a place
* `firstViolation?_append_singleton`: one claim more is looked at after all others
* `firstViolation?_eq_none`: nothing is reported exactly when no place has a breach
* `firstViolation?_eq_some`: what is reported is the breach at the first place that has one
* `violation?_exact`: the check of a table accepts the well-formed tables and says the first breach of
  any other
-/

namespace WebhookOperator.MappingTable

def Claim.onControl : Claim → Violation
  | target name => .controlIsTarget name
  | request name => .controlIsRequest name

def Claim.again : Claim → Violation
  | target name => .duplicateTarget name
  | request name => .duplicateRequest name

theorem Claim.violation?_eq (control : String) (before : List Claim) (claim : Claim) :
    claim.violation? control before =
      if claim.name = control then some claim.onControl
      else if claim ∈ before then some claim.again
      else none := by
  cases claim with
  | target name =>
    by_cases hcontrol : control = name
    · subst hcontrol
      simp [violation?, Claim.name, onControl]
    · simp [violation?, Claim.name, again, hcontrol, Ne.symm hcontrol]
  | request name =>
    by_cases hcontrol : control = name
    · subst hcontrol
      simp [violation?, Claim.name, onControl]
    · simp [violation?, Claim.name, again, hcontrol, Ne.symm hcontrol]

/-- The claim at a place breaks a rule.  That it is made on the control namespace goes before that it is
made a second time. -/
inductive Breaks (control : String) (claims : List Claim) (place : Nat) : Violation → Prop
  | onControl {claim : Claim} (claimed : claims[place]? = some claim) (same : claim.name = control) :
      Breaks control claims place claim.onControl
  | again {claim : Claim} {earlier : Nat} (claimed : claims[place]? = some claim)
      (apart : claim.name ≠ control) (before : earlier < place)
      (same : claims[earlier]? = some claim) : Breaks control claims place claim.again

variable {control : String} {claims : List Claim}

/-! ### Places -/

theorem Breaks.lt_length {place : Nat} {violation : Violation}
    (h : Breaks control claims place violation) : place < claims.length := by
  cases h with
  | onControl claimed _ => exact (List.getElem?_eq_some_iff.1 claimed).1
  | again claimed _ _ _ => exact (List.getElem?_eq_some_iff.1 claimed).1

theorem Breaks.congr {others : List Claim} {place : Nat} {violation : Violation}
    (h : Breaks control claims place violation)
    (heq : ∀ earlier ≤ place, others[earlier]? = claims[earlier]?) :
    Breaks control others place violation := by
  have hplace := heq place (Nat.le_refl place)
  cases h with
  | onControl claimed same => exact .onControl (hplace.trans claimed) same
  | again claimed apart before same =>
    have hearlier := heq _ (Nat.le_of_lt before)
    exact .again (hplace.trans claimed) apart before (hearlier.trans same)

theorem breaks_append_iff {more : List Claim} {place : Nat} {violation : Violation}
    (h : place < claims.length) :
    Breaks control (claims ++ more) place violation ↔ Breaks control claims place violation := by
  have heq : ∀ earlier ≤ place, (claims ++ more)[earlier]? = claims[earlier]? := by
    intro earlier hle
    exact List.getElem?_append_left (by omega)
  constructor
  · intro hbreaks
    apply hbreaks.congr
    intro earlier hle
    exact (heq earlier hle).symm
  · intro hbreaks
    exact hbreaks.congr heq

theorem exists_getElem?_append {claim other : Claim} :
    (∃ earlier < claims.length, (claims ++ [claim])[earlier]? = some other) ↔ other ∈ claims := by
  constructor
  · rintro ⟨earlier, hlt, hother⟩
    rw [List.getElem?_append_left hlt] at hother
    exact List.mem_of_getElem? hother
  · intro hmem
    obtain ⟨earlier, hother⟩ := List.getElem?_of_mem hmem
    have hlt := (List.getElem?_eq_some_iff.1 hother).1
    exact ⟨earlier, hlt, (List.getElem?_append_left hlt).trans hother⟩

/-- The breach at the last place is what the last claim breaks after all others. -/
theorem breaks_last_iff {claim : Claim} {violation : Violation} :
    Breaks control (claims ++ [claim]) claims.length violation ↔
      claim.violation? control claims.reverse = some violation := by
  have hlast : (claims ++ [claim])[claims.length]? = some claim := List.getElem?_concat_length
  rw [Claim.violation?_eq]
  constructor
  · intro h
    cases h with
    | onControl claimed same =>
      obtain rfl := Option.some.inj (hlast.symm.trans claimed)
      rw [if_pos same]
    | again claimed apart before same =>
      obtain rfl := Option.some.inj (hlast.symm.trans claimed)
      have hmem := exists_getElem?_append.1 ⟨_, before, same⟩
      rw [if_neg apart, if_pos (List.mem_reverse.2 hmem)]
  · intro h
    split at h
    next hcontrol =>
      obtain rfl := Option.some.inj h
      exact .onControl hlast hcontrol
    next hcontrol =>
      split at h
      next hmem =>
        obtain rfl := Option.some.inj h
        obtain ⟨earlier, hlt, hsame⟩ := exists_getElem?_append.2 (List.mem_reverse.1 hmem)
        exact .again hlast hcontrol hlt hsame
      · cases h

/-! ### The walk -/

theorem firstViolation?_append_singleton (control : String) (before claims : List Claim)
    (claim : Claim) :
    firstViolation? control before (claims ++ [claim]) =
      (firstViolation? control before claims).or
        (claim.violation? control (claims.reverse ++ before)) := by
  induction claims generalizing before with
  | nil => simp [firstViolation?]
  | cons first claims ih =>
    rw [List.cons_append, firstViolation?, ih, firstViolation?, Option.or_assoc, List.reverse_cons,
      List.append_assoc, List.singleton_append]

/-- A place of one claim more is a place of the others, or the last one. -/
theorem Breaks.lt_or_eq {claim : Claim} {place : Nat} {violation : Violation}
    (h : Breaks control (claims ++ [claim]) place violation) :
    place < claims.length ∨ place = claims.length := by
  have hlt := h.lt_length
  rw [List.length_append, List.length_singleton] at hlt
  omega

theorem firstViolation?_eq_none :
    firstViolation? control [] claims = none ↔
      ∀ place violation, ¬Breaks control claims place violation := by
  induction claims using List.reverseRecOn with
  | nil =>
    refine iff_of_true rfl ?_
    intro place violation hbreaks
    exact absurd hbreaks.lt_length (Nat.not_lt_zero _)
  | append_singleton claims claim ih =>
    rw [firstViolation?_append_singleton, Option.or_eq_none_iff, ih, List.append_nil]
    constructor
    · rintro ⟨hbefore, hlast⟩ place violation hbreaks
      rcases hbreaks.lt_or_eq with hplace | rfl
      · exact hbefore place violation ((breaks_append_iff hplace).1 hbreaks)
      · rw [breaks_last_iff, hlast] at hbreaks
        cases hbreaks
    · intro hnone
      refine ⟨?_, ?_⟩
      · intro place violation hbreaks
        exact hnone place violation ((breaks_append_iff hbreaks.lt_length).2 hbreaks)
      · cases hlast : claim.violation? control claims.reverse with
        | none => rfl
        | some violation => exact absurd (breaks_last_iff.2 hlast) (hnone _ violation)

/-- **What is reported is the breach at the first place that has one.** -/
theorem firstViolation?_eq_some {violation : Violation} :
    firstViolation? control [] claims = some violation ↔
      ∃ place, Breaks control claims place violation ∧
        ∀ earlier < place, ∀ other, ¬Breaks control claims earlier other := by
  -- from the end: one claim more adds one place, which counts when no place before it has a breach
  induction claims using List.reverseRecOn with
  | nil =>
    refine iff_of_false (by simp [firstViolation?]) ?_
    rintro ⟨place, hbreaks, -⟩
    exact absurd hbreaks.lt_length (Nat.not_lt_zero _)
  | append_singleton claims claim ih =>
    rw [firstViolation?_append_singleton, Option.or_eq_some_iff, ih, firstViolation?_eq_none,
      List.append_nil, ← breaks_last_iff]
    constructor
    · rintro (⟨place, hbreaks, hfirst⟩ | ⟨hnone, hlast⟩)
      · have hlt := hbreaks.lt_length
        refine ⟨place, (breaks_append_iff hlt).2 hbreaks, ?_⟩
        intro earlier hearlier other hother
        exact hfirst earlier hearlier other ((breaks_append_iff (by omega)).1 hother)
      · refine ⟨claims.length, hlast, ?_⟩
        intro earlier hearlier other hother
        exact hnone earlier other ((breaks_append_iff hearlier).1 hother)
    · rintro ⟨place, hbreaks, hfirst⟩
      rcases hbreaks.lt_or_eq with hplace | rfl
      · refine Or.inl ⟨place, (breaks_append_iff hplace).1 hbreaks, ?_⟩
        intro earlier hearlier other hother
        exact hfirst earlier hearlier other ((breaks_append_iff (by omega)).2 hother)
      · refine Or.inr ⟨?_, hbreaks⟩
        intro earlier other hother
        have hearlier := hother.lt_length
        exact hfirst earlier hearlier other ((breaks_append_iff hearlier).2 hother)

/-- **The check of a table is exact.**  It accepts the well-formed tables and no others.  Of another
table it reports the breach at the first place that has one, in the order of the table's claims: of
each mapping its target, and then its namespaces. -/
theorem violation?_exact (table : MappingTable) :
    (table.violation? = none ↔ table.WellFormed) ∧
      ∀ violation, table.violation? = some violation ↔
        ∃ place, Breaks table.control table.claims place violation ∧
          ∀ earlier < place, ∀ other, ¬Breaks table.control table.claims earlier other := by
  constructor
  · exact violation?_eq_none_iff
  · intro violation
    exact firstViolation?_eq_some

/-- A mapping without a target is sent to the empty name, which is the control namespace of a table that
names none. -/
example : violation? { mappings := [{ requests := ["shop"] }] } = some (.controlIsTarget "") := by
  decide

end WebhookOperator.MappingTable
