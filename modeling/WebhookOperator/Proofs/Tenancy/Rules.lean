import Mathlib.Data.List.Flatten
import Mathlib.Data.List.Forall2
import Mathlib.Data.List.Nodup
import Mathlib.Data.List.Pairwise
import Mathlib.Data.List.Perm.Lattice
import WebhookOperator.Tenancy.Table

/-!
# The rules of the mapping table

A table is checked claim by claim, and the first breach is reported.  Where none is reported the table
is well formed as a whole: nobody shares a target or a namespace with anybody else, and the control
namespace is neither.  Then the first mapping with a namespace is the only one, so a look-up does not
depend on the order of the table.

* `MappingTable.violation?_eq_none_iff`: the check accepts the well-formed tables
* `MappingTable.WellFormed.target?_eq_some_iff`: what a look-up finds in such a table
* `MappingTable.Reordered.wellFormed`, `MappingTable.Reordered.target?_eq`: other orders of a table
-/

namespace WebhookOperator.MappingTable

/-! ### Claims -/

def Claim.name : Claim → String
  | target name | request name => name

theorem Claim.violation?_eq_none_iff {control : String} {before : List Claim} {claim : Claim} :
    claim.violation? control before = none ↔ claim.name ≠ control ∧ claim ∉ before := by
  cases claim with
  | target name =>
    rw [violation?, Claim.name]
    by_cases hcontrol : control = name
    · simp [hcontrol]
    · by_cases hmem : target name ∈ before
      · simp [hcontrol, hmem]
      · simp [hcontrol, hmem, Ne.symm hcontrol]
  | request name =>
    rw [violation?, Claim.name]
    by_cases hcontrol : control = name
    · simp [hcontrol]
    · by_cases hmem : request name ∈ before
      · simp [hcontrol, hmem]
      · simp [hcontrol, hmem, Ne.symm hcontrol]

/-- The claims before the first one are only needed to find a second one of the same kind, so no claim
is made twice. -/
theorem firstViolation?_eq_none_iff {control : String} {before claims : List Claim} :
    firstViolation? control before claims = none ↔
      claims.Nodup ∧ ∀ claim ∈ claims, claim.name ≠ control ∧ claim ∉ before := by
  induction claims generalizing before with
  | nil => simp [firstViolation?]
  | cons claim claims ih =>
    rw [firstViolation?, Option.or_eq_none_iff, Claim.violation?_eq_none_iff, ih, List.nodup_cons,
      List.forall_mem_cons]
    constructor
    · rintro ⟨hclaim, hnodup, hclaims⟩
      refine ⟨⟨fun hmem => ?_, hnodup⟩, hclaim, fun other hother => ?_⟩
      · exact (hclaims claim hmem).2 List.mem_cons_self
      · obtain ⟨hname, hbefore⟩ := hclaims other hother
        exact ⟨hname, fun hmem => hbefore (List.mem_cons_of_mem _ hmem)⟩
    · rintro ⟨⟨hnew, hnodup⟩, hclaim, hclaims⟩
      refine ⟨hclaim, hnodup, fun other hother => ?_⟩
      obtain ⟨hname, hbefore⟩ := hclaims other hother
      refine ⟨hname, fun hmem => ?_⟩
      rcases List.mem_cons.1 hmem with rfl | hmem
      · exact hnew hother
      · exact hbefore hmem

theorem mem_claims_iff {table : MappingTable} {claim : Claim} :
    claim ∈ table.claims ↔ ∃ mapping ∈ table.mappings,
      claim = .target mapping.target ∨ ∃ name ∈ mapping.requests, claim = .request name := by
  simp [claims, eq_comm]

/-- The claims of all targets and those of all namespaces. -/
theorem claims_perm (table : MappingTable) :
    table.claims.Perm ((table.mappings.map (.target ·.target)) ++
      (table.mappings.flatMap (·.requests)).map .request) := by
  rw [claims]
  induction table.mappings with
  | nil => exact .refl _
  | cons mapping mappings ih =>
    rw [List.flatMap_cons, List.map_cons, List.flatMap_cons, List.map_append, List.cons_append,
      List.cons_append]
    refine .cons _ ((ih.append_left _).trans ?_)
    rw [← List.append_assoc, ← List.append_assoc]
    exact List.perm_append_comm.append_right _

theorem nodup_claims_iff {table : MappingTable} :
    table.claims.Nodup ↔ (table.mappings.map (·.target)).Nodup ∧
      (table.mappings.flatMap (·.requests)).Nodup := by
  have htarget : Function.Injective Claim.target := fun _ _ h => Claim.target.inj h
  have hrequest : Function.Injective Claim.request := fun _ _ h => Claim.request.inj h
  have htargets : table.mappings.map (fun mapping => Claim.target mapping.target) =
      (table.mappings.map (·.target)).map .target := by
    rw [List.map_map]
    rfl
  have hdisjoint : ∀ claim ∈ (table.mappings.map (·.target)).map Claim.target,
      ∀ other ∈ (table.mappings.flatMap (·.requests)).map Claim.request, claim ≠ other := by
    rintro _ hclaim _ hother rfl
    obtain ⟨_, _, rfl⟩ := List.mem_map.1 hclaim
    obtain ⟨_, _, heq⟩ := List.mem_map.1 hother
    cases heq
  rw [table.claims_perm.nodup_iff, htargets, List.nodup_append, List.nodup_map_iff htarget,
    List.nodup_map_iff hrequest]
  exact ⟨fun ⟨htargets, hrequests, _⟩ => ⟨htargets, hrequests⟩,
    fun ⟨htargets, hrequests⟩ => ⟨htargets, hrequests, hdisjoint⟩⟩

/-! ### Well-formed tables -/

/-- No two mappings share a target, no namespace is listed twice, and the control namespace is neither
a target nor listed. -/
structure WellFormed (table : MappingTable) : Prop where
  nodup_targets : (table.mappings.map (·.target)).Nodup
  nodup_requests : (table.mappings.flatMap (·.requests)).Nodup
  target_ne_control : ∀ mapping ∈ table.mappings, mapping.target ≠ table.control
  request_ne_control : ∀ mapping ∈ table.mappings, ∀ name ∈ mapping.requests, name ≠ table.control

/-- **The check accepts the well-formed tables**, and no others. -/
theorem violation?_eq_none_iff {table : MappingTable} :
    table.violation? = none ↔ table.WellFormed := by
  rw [violation?, firstViolation?_eq_none_iff, nodup_claims_iff]
  constructor
  · rintro ⟨⟨htargets, hrequests⟩, hclaims⟩
    refine ⟨htargets, hrequests, fun mapping hmem => ?_, fun mapping hmem name hname => ?_⟩
    · exact (hclaims _ (mem_claims_iff.2 ⟨mapping, hmem, .inl rfl⟩)).1
    · exact (hclaims _ (mem_claims_iff.2 ⟨mapping, hmem, .inr ⟨name, hname, rfl⟩⟩)).1
  · intro h
    refine ⟨⟨h.nodup_targets, h.nodup_requests⟩, fun claim hclaim => ⟨?_, List.not_mem_nil⟩⟩
    rcases mem_claims_iff.1 hclaim with ⟨mapping, hmem, rfl | ⟨name, hname, rfl⟩⟩
    · exact h.target_ne_control mapping hmem
    · exact h.request_ne_control mapping hmem name hname

theorem exists_of_target?_eq_some {table : MappingTable} {name target : String}
    (h : table.target? name = some target) :
    ∃ mapping ∈ table.mappings, name ∈ mapping.requests ∧ mapping.target = target := by
  obtain ⟨mapping, hfind, htarget⟩ := Option.map_eq_some_iff.1 h
  exact ⟨mapping, List.mem_of_find?_eq_some hfind, by simpa using List.find?_some hfind, htarget⟩

namespace WellFormed

variable {table : MappingTable}

/-- Only one mapping lists a namespace. -/
theorem eq_of_mem_requests (h : table.WellFormed) {mapping other : TenantMapping}
    (hmem : mapping ∈ table.mappings) (hother : other ∈ table.mappings) {name : String}
    (hname : name ∈ mapping.requests) (hname' : name ∈ other.requests) : mapping = other := by
  by_contra hne
  have hdisjoint := (List.nodup_flatMap.1 h.nodup_requests).2
  have hsymm : Std.Symm (Function.onFun List.Disjoint fun mapping : TenantMapping => mapping.requests) :=
    ⟨fun _ _ hapart => hapart.symm⟩
  exact hdisjoint.forall hmem hother hne hname hname'

/-- **What a look-up finds**: the target of the mapping that lists the namespace. -/
theorem target?_eq_some_iff (h : table.WellFormed) {name target : String} :
    table.target? name = some target ↔
      ∃ mapping ∈ table.mappings, name ∈ mapping.requests ∧ mapping.target = target := by
  refine ⟨exists_of_target?_eq_some, ?_⟩
  rintro ⟨mapping, hmem, hname, rfl⟩
  have hfound : (table.mappings.find? (·.requests.contains name)).isSome := by
    rw [List.find?_isSome]
    exact ⟨mapping, hmem, by simpa using hname⟩
  obtain ⟨found, hfind⟩ := Option.isSome_iff_exists.1 hfound
  have hfoundName : name ∈ found.requests := by simpa using List.find?_some hfind
  have heq := h.eq_of_mem_requests (List.mem_of_find?_eq_some hfind) hmem hfoundName hname
  rw [target?, hfind, heq]
  rfl

theorem target?_control (h : table.WellFormed) : table.target? table.control = none := by
  cases htarget : table.target? table.control with
  | none => rfl
  | some target =>
    obtain ⟨mapping, hmem, hname, _⟩ := exists_of_target?_eq_some htarget
    exact absurd rfl (h.request_ne_control mapping hmem _ hname)

theorem ne_control_of_target?_eq_some (h : table.WellFormed) {name target : String}
    (htarget : table.target? name = some target) : target ≠ table.control := by
  obtain ⟨mapping, hmem, _, rfl⟩ := exists_of_target?_eq_some htarget
  exact h.target_ne_control mapping hmem

theorem target_ne_of_ne (h : table.WellFormed) {position position' : Nat}
    {mapping other : TenantMapping} (hne : position ≠ position')
    (hmapping : table.mappings[position]? = some mapping)
    (hother : table.mappings[position']? = some other) : mapping.target ≠ other.target := by
  intro heq
  have hlt := (List.getElem?_eq_some_iff.1 hmapping).1
  refine hne ((List.getElem?_inj (by simpa using hlt) h.nodup_targets).1 ?_)
  rw [List.getElem?_map, List.getElem?_map, hmapping, hother, Option.map_some, Option.map_some, heq]

end WellFormed

end WebhookOperator.MappingTable

/-! ### Other orders -/

namespace WebhookOperator

/-- The same mapping, with its namespaces in another order. -/
structure TenantMapping.Reordered (mapping other : TenantMapping) : Prop where
  target : other.target = mapping.target
  requests : mapping.requests.Perm other.requests

namespace TenantMapping.Reordered

variable {mappings others : List TenantMapping}

theorem targets_eq (h : List.Forall₂ Reordered mappings others) :
    others.map (·.target) = mappings.map (·.target) := by
  induction h with
  | nil => rfl
  | cons hhead _ ih => rw [List.map_cons, List.map_cons, ih, hhead.target]

theorem requests_perm (h : List.Forall₂ Reordered mappings others) :
    (mappings.flatMap (·.requests)).Perm (others.flatMap (·.requests)) := by
  induction h with
  | nil => exact .refl _
  | cons hhead _ ih =>
    rw [List.flatMap_cons, List.flatMap_cons]
    exact hhead.requests.append ih

/-- Both lists have a namespace for the same targets. -/
theorem exists_mem_iff (h : List.Forall₂ Reordered mappings others) {name target : String} :
    (∃ mapping ∈ others, name ∈ mapping.requests ∧ mapping.target = target) ↔
      ∃ mapping ∈ mappings, name ∈ mapping.requests ∧ mapping.target = target := by
  induction h with
  | nil => simp
  | cons hhead _ ih =>
    rw [List.exists_mem_cons_iff, List.exists_mem_cons_iff, hhead.target, hhead.requests.mem_iff]
    exact or_congr_right ih

end TenantMapping.Reordered

namespace MappingTable

/-- The same table, with its mappings and their namespaces in another order. -/
structure Reordered (table other : MappingTable) : Prop where
  control : other.control = table.control
  default? : other.default? = table.default?
  mappings : ∃ moved, table.mappings.Perm moved ∧
    List.Forall₂ TenantMapping.Reordered moved other.mappings

namespace Reordered

variable {table other : MappingTable}

theorem defaultNamespace_eq (h : table.Reordered other) :
    other.defaultNamespace = table.defaultNamespace := by
  rw [defaultNamespace, defaultNamespace, h.default?]

theorem targets_perm (h : table.Reordered other) :
    (table.mappings.map (·.target)).Perm (other.mappings.map (·.target)) := by
  obtain ⟨moved, hperm, hmoved⟩ := h.mappings
  rw [TenantMapping.Reordered.targets_eq hmoved]
  exact hperm.map _

theorem requests_perm (h : table.Reordered other) :
    (table.mappings.flatMap (·.requests)).Perm (other.mappings.flatMap (·.requests)) := by
  obtain ⟨moved, hperm, hmoved⟩ := h.mappings
  exact (hperm.flatMap_right _).trans (TenantMapping.Reordered.requests_perm hmoved)

/-- **Another order of a well-formed table is well formed.** -/
theorem wellFormed (h : table.Reordered other) (hformed : table.WellFormed) : other.WellFormed where
  nodup_targets := h.targets_perm.nodup_iff.1 hformed.nodup_targets
  nodup_requests := h.requests_perm.nodup_iff.1 hformed.nodup_requests
  target_ne_control mapping hmem := by
    have htarget : mapping.target ∈ table.mappings.map (·.target) :=
      h.targets_perm.mem_iff.2 (List.mem_map_of_mem hmem)
    obtain ⟨original, horiginal, heq⟩ := List.mem_map.1 htarget
    rw [h.control, ← heq]
    exact hformed.target_ne_control original horiginal
  request_ne_control mapping hmem name hname := by
    have hrequest : name ∈ table.mappings.flatMap (·.requests) :=
      h.requests_perm.mem_iff.2 (List.mem_flatMap_of_mem hmem hname)
    obtain ⟨original, horiginal, hname⟩ := List.mem_flatMap.1 hrequest
    rw [h.control]
    exact hformed.request_ne_control original horiginal name hname

theorem target?_eq (h : table.Reordered other) (hformed : table.WellFormed) (name : String) :
    other.target? name = table.target? name := by
  refine Option.ext fun target => ?_
  obtain ⟨moved, hperm, hmoved⟩ := h.mappings
  rw [(h.wellFormed hformed).target?_eq_some_iff, hformed.target?_eq_some_iff,
    TenantMapping.Reordered.exists_mem_iff hmoved]
  exact exists_congr fun _ => and_congr_left fun _ => hperm.mem_iff.symm

end Reordered

end MappingTable

end WebhookOperator
