import WebhookOperator.Proofs.Tenancy.Acceptance

/-!
# Mappings without a target

The target of a mapping may be missing, and then it is the empty name.  The check of a table compares
names with each other only, so it accepts one such mapping as long as the control namespace has a name.
To be sent to the empty name is to lose the registry namespace, since an empty one is not written and
stands for the namespace of the request itself.

This file says when the registry namespaces of operand requests are safe: exactly for those who are not
listed by the mapping without a target.

* `OperandRequest.KeepsNamespaces`: nobody who is sent elsewhere is left without a registry namespace
* `OperandRequest.perform?_redirections`: what a patch makes of an operand request
* `OperandRequest.keepsNamespaces_iff`: it keeps the namespaces exactly if there is a target
* `MappingTable.keepsNamespaces_iff_targeted`: the accepted tables that keep them for everybody
-/

namespace WebhookOperator

open Json

namespace OperandRequest

/-- A patch leaves an operand request in which every registry namespace is the one that it was, or
another one that is not empty, and it takes nothing out. -/
structure KeepsNamespaces (object : OperandRequest) (patch : Patch) : Prop where
  named : ∃ again : OperandRequest,
    patch.perform? (codec.encode object) = some (codec.encode again) ∧
      ∀ (position : Nat) (asked moved : RegistryRequest),
        object.spec.requests[position]? = some asked → again.spec.requests[position]? = some moved →
          moved.registryNamespace ≠ asked.registryNamespace → moved.registryNamespace ≠ ""
  removes_nothing : ∀ place, Operation.remove place ∉ patch

variable {object : OperandRequest} {table : MappingTable} {patch : Patch} {source target : String}

theorem ne_nil_of_patch?_eq_some (h : object.patch? table = some patch) : patch ≠ [] := by
  rw [patch?, Patch.between?] at h
  split at h
  · cases h
  next hnil =>
    obtain rfl := Option.some.inj h
    rwa [List.isEmpty_iff] at hnil

/-- What the changes that send requests elsewhere make of an operand request. -/
theorem perform?_redirections (hsource : source ≠ "") (hne : target ≠ source)
    (object : OperandRequest) :
    (object.redirections source target).perform? (codec.encode object) =
      some (codec.encode (object.sent source target)) := by
  rw [← between_sent hsource hne object]
  exact leads_self (lawful.sorted_encode object) (lawful.sorted_encode _)

theorem registryNamespace_sent {position : Nat} {asked moved : RegistryRequest}
    (hasked : object.spec.requests[position]? = some asked)
    (hmoved : (object.sent source target).spec.requests[position]? = some moved)
    (hne : moved.registryNamespace ≠ asked.registryNamespace) :
    moved.registryNamespace = target := by
  have hredirect : moved = asked.redirect source target := by
    rw [sent, OperandRequestSpec.sent, List.getElem?_map, hasked, Option.map_some] at hmoved
    exact (Option.some.inj hmoved).symm
  rw [hredirect, RegistryRequest.redirect] at hne ⊢
  split
  · rfl
  next hname =>
    rw [if_neg hname] at hne
    exact absurd rfl hne

/-- The changes take nothing out, unless the target is the empty name. -/
theorem remove_not_mem_redirections (htarget : target ≠ "") (place : Pointer) :
    Operation.remove place ∉ object.redirections source target := by
  intro hmem
  obtain ⟨position, _, heq⟩ := List.mem_map.1 hmem
  rw [RegistryRequest.redirection, if_neg htarget] at heq
  cases heq

/-- Whoever has the empty name for a target has their registry namespaces taken out. -/
theorem eq_removals_of_target? (h : object.patch? table = some patch)
    (hempty : table.target? object.requester = some "") :
    patch = (object.spec.positions table.defaultNamespace).map fun position =>
      .remove ⟨site position⟩ := by
  obtain ⟨target, htarget, _, rfl⟩ := exists_of_patch?_eq_some h
  obtain rfl := Option.some.inj (htarget.symm.trans hempty)
  rfl

/-- **When a patch keeps the registry namespaces**: exactly if the one who asks has a target. -/
theorem keepsNamespaces_iff (h : object.patch? table = some patch) :
    object.KeepsNamespaces patch ↔ table.target? object.requester ≠ some "" := by
  constructor
  · intro hkeeps hempty
    obtain ⟨operation, hmem⟩ := List.exists_mem_of_ne_nil _ (ne_nil_of_patch?_eq_some h)
    have hremoved := hmem
    rw [eq_removals_of_target? h hempty] at hremoved
    obtain ⟨position, _, rfl⟩ := List.mem_map.1 hremoved
    exact hkeeps.removes_nothing ⟨site position⟩ hmem
  · obtain ⟨target, htarget, hne, rfl⟩ := exists_of_patch?_eq_some h
    have hsource := table.defaultNamespace_ne_empty
    rw [htarget, Ne, Option.some.injEq]
    intro hempty
    refine ⟨⟨_, perform?_redirections hsource hne object, ?_⟩, remove_not_mem_redirections hempty⟩
    intro position asked moved hasked hmoved hchanged
    rw [registryNamespace_sent hasked hmoved hchanged]
    exact hempty

def asking (name registryNamespace : String) : OperandRequest where
  metadata := { namespaceName := some name }
  spec := { requests := [{ registry := "common", registryNamespace := registryNamespace }] }

/-- Whoever has the empty name for a target can lose a registry namespace. -/
theorem exists_not_keepsNamespaces {name : String} (h : table.target? name = some "") :
    ∃ patch, (asking name table.defaultNamespace).patch? table = some patch ∧
      ¬(asking name table.defaultNamespace).KeepsNamespaces patch := by
  have hpatch : (asking name table.defaultNamespace).patch? table = some _ :=
    patch?_eq_some h table.defaultNamespace_ne_empty.symm ⟨_, List.mem_singleton_self _, rfl⟩
  refine ⟨_, hpatch, ?_⟩
  rw [keepsNamespaces_iff hpatch]
  exact fun hne => hne h

end OperandRequest

namespace MappingTable

/-- Every mapping that lists a namespace has a target. -/
def Targeted (table : MappingTable) : Prop :=
  ∀ mapping ∈ table.mappings, mapping.requests ≠ [] → mapping.target ≠ ""

theorem WellFormed.targeted_iff {table : MappingTable} (h : table.WellFormed) :
    table.Targeted ↔ ∀ name, table.target? name ≠ some "" := by
  constructor
  · intro htargeted name htarget
    obtain ⟨mapping, hmem, hname, hempty⟩ := exists_of_target?_eq_some htarget
    exact htargeted mapping hmem (List.ne_nil_of_mem hname) hempty
  · intro hnone mapping hmem hne hempty
    obtain ⟨name, hname⟩ := List.exists_mem_of_ne_nil _ hne
    exact hnone name (h.target?_eq_some_iff.2 ⟨mapping, hmem, hname, hempty⟩)

/-- Without a control namespace there is no mapping without a target, since the two would be the
same. -/
theorem WellFormed.targeted_of_control {table : MappingTable} (h : table.WellFormed)
    (hcontrol : table.control = "") : table.Targeted := by
  intro mapping hmem _ hempty
  exact h.target_ne_control mapping hmem (hempty.trans hcontrol.symm)

/-- **The accepted tables that keep the registry namespaces.**  Whoever is sent elsewhere by an accepted
table keeps a registry namespace exactly if their mapping has a target; otherwise the registry
namespaces are taken out of their operand request.  So the table is safe for everybody exactly if
every mapping that lists a namespace has a target, as they all have where there is no control
namespace. -/
theorem keepsNamespaces_iff_targeted {configMap : ConfigMap}
    (haccepted : configMap.tableVerdict = .ok .allowed) :
    ∃ table, ofConfigMap? configMap = some table ∧
      (∀ (object : OperandRequest) (patch : Patch),
        object.verdict (some configMap) = .ok (.patched patch) →
          (object.KeepsNamespaces patch ↔ table.target? object.requester ≠ some "") ∧
            (table.target? object.requester = some "" →
              patch = (object.spec.positions table.defaultNamespace).map fun position =>
                .remove ⟨OperandRequest.site position⟩)) ∧
      ((∀ (object : OperandRequest) (patch : Patch),
        object.verdict (some configMap) = .ok (.patched patch) → object.KeepsNamespaces patch) ↔
          table.Targeted) ∧
      (table.control = "" → table.Targeted) := by
  obtain ⟨table, htable, hformed⟩ := tableVerdict_eq_allowed_iff.1 haccepted
  have hverdict := OperandRequest.verdict_of_ofConfigMap? htable
  have hpatched : ∀ (object : OperandRequest) (patch : Patch),
      object.verdict (some configMap) = .ok (.patched patch) ↔ object.patch? table = some patch := by
    intro object patch
    rw [hverdict]
    cases object.patch? table <;> simp [Verdict.ofPatch?]
  refine ⟨table, htable, ?_, ?_, hformed.targeted_of_control⟩
  · intro object patch h
    have hpatch := (hpatched object patch).1 h
    exact ⟨OperandRequest.keepsNamespaces_iff hpatch, OperandRequest.eq_removals_of_target? hpatch⟩
  · rw [hformed.targeted_iff]
    constructor
    · intro hkeeps name htarget
      obtain ⟨patch, hpatch, hloses⟩ := OperandRequest.exists_not_keepsNamespaces htarget
      exact hloses (hkeeps _ patch ((hpatched _ patch).2 hpatch))
    · intro hnone object patch h
      exact (OperandRequest.keepsNamespaces_iff ((hpatched object patch).1 h)).2 (hnone _)

def targetlessText : String :=
  "controlNamespace: ctl\n" ++
  "namespaceMapping:\n" ++
  "- requested-from-namespace: web\n" ++
  "- requested-from-namespace: lab\n" ++
  "  map-to-common-service-namespace: own\n"

theorem ofConfigMap?_targetlessText : ofConfigMap? (.holding targetlessText) =
    some ⟨"ctl", none, [⟨["web"], ""⟩, ⟨["lab"], "own"⟩]⟩ := by
  decide +kernel

theorem tableVerdict_targetlessText :
    (ConfigMap.holding targetlessText).tableVerdict = .ok .allowed :=
  tableVerdict_eq_allowed_iff.2
    ⟨_, ofConfigMap?_targetlessText, violation?_eq_none_iff.1 (by decide)⟩

/-- Of two tenants of one accepted table, one keeps the registry namespace and the other one does not. -/
theorem keepsNamespaces_iff_targeted_sample :
    (ConfigMap.holding targetlessText).tableVerdict = .ok .allowed ∧
      (∃ patch, (OperandRequest.asking "lab" "ibm-common-services").verdict
          (some (.holding targetlessText)) = .ok (.patched patch) ∧
        (OperandRequest.asking "lab" "ibm-common-services").KeepsNamespaces patch) ∧
      ∃ patch, (OperandRequest.asking "web" "ibm-common-services").verdict
          (some (.holding targetlessText)) = .ok (.patched patch) ∧
        ¬(OperandRequest.asking "web" "ibm-common-services").KeepsNamespaces patch := by
  obtain ⟨table, htable, hkeeps, _, _⟩ := keepsNamespaces_iff_targeted tableVerdict_targetlessText
  obtain rfl := Option.some.inj (ofConfigMap?_targetlessText.symm.trans htable)
  have hverdict := OperandRequest.verdict_of_ofConfigMap? ofConfigMap?_targetlessText
  refine ⟨tableVerdict_targetlessText, ⟨_, hverdict _, ?_⟩, ⟨_, hverdict _, ?_⟩⟩
  · rw [(hkeeps _ _ (hverdict _)).1]
    decide
  · rw [(hkeeps _ _ (hverdict _)).1]
    decide

/-- An accepted mapping takes out a registry namespace: the one that is left stands for the namespace of
the operand request itself. -/
theorem targetless_mapping_erases :
    (ConfigMap.holding targetlessText).tableVerdict = .ok .allowed ∧
      (OperandRequest.asking "web" "ibm-common-services").verdict (some (.holding targetlessText)) =
        .ok (.patched [.remove ⟨OperandRequest.site 0⟩]) ∧
      Patch.perform? [.remove ⟨OperandRequest.site 0⟩]
          (OperandRequest.codec.encode (.asking "web" "ibm-common-services")) =
        some (OperandRequest.codec.encode (.asking "web" "")) := by
  refine ⟨tableVerdict_targetlessText, ?_, by decide +kernel⟩
  rw [OperandRequest.verdict_of_ofConfigMap? ofConfigMap?_targetlessText]
  exact congrArg Except.ok (by decide +kernel)

end MappingTable

end WebhookOperator
