import WebhookOperator.Proofs.Tenancy.Redirection
import WebhookOperator.Proofs.Tenancy.Rules

/-!
# Accepted tables

One handler checks the mapping table, and another one sends requests where the table says.  What the
first one accepts is safe in the hands of the second: everybody is sent to the target of the only
mapping that lists them, which nobody else is sent to and which is not the control namespace.

* `MappingTable.tableVerdict_eq_allowed_iff`: the accepted config maps
* `OperandRequest.verdict_congr`: what a verdict depends on
* `MappingTable.accepted_sound`: what holds of an accepted table
-/

namespace WebhookOperator

open Api Json

/-! ### What a verdict depends on -/

theorem MappingTable.tableVerdict_eq_allowed_iff {configMap : ConfigMap} :
    configMap.tableVerdict = .ok .allowed ↔
      ∃ table, MappingTable.ofConfigMap? configMap = some table ∧ table.WellFormed := by
  rw [ConfigMap.tableVerdict, MappingTable.load]
  cases htable : MappingTable.ofConfigMap? configMap with
  | none =>
    constructor
    · intro h
      cases h
    · rintro ⟨_, h, _⟩
      cases h
  | some table =>
    simp only [Except.map, Except.ok.injEq, Option.some.injEq, exists_eq_left']
    rw [← MappingTable.violation?_eq_none_iff]
    cases table.violation? with
    | none => simp
    | some violation => simp

namespace OperandRequest

variable {configMap : ConfigMap} {table : MappingTable}

theorem verdict_of_ofConfigMap? (htable : MappingTable.ofConfigMap? configMap = some table)
    (object : OperandRequest) :
    object.verdict (some configMap) = .ok (.ofPatch? (object.patch? table)) := by
  simp only [verdict, MappingTable.load, htable]
  rfl

/-- Two tables that give a namespace the same target and have the same default ask for the same. -/
theorem patch?_congr {other : MappingTable} {object : OperandRequest}
    (htarget : other.target? object.requester = table.target? object.requester)
    (hdefault : other.defaultNamespace = table.defaultNamespace) :
    object.patch? other = object.patch? table := by
  rw [patch?, patch?, redirect, redirect, htarget, hdefault]

/-- A patch sends the requests that name the default to the target of the table. -/
theorem exists_of_patch?_eq_some {object : OperandRequest} {patch : Json.Patch}
    (h : object.patch? table = some patch) :
    ∃ target, table.target? object.requester = some target ∧ target ≠ table.defaultNamespace ∧
      patch = object.redirections table.defaultNamespace target := by
  cases htarget : table.target? object.requester with
  | none =>
    rw [patch?_eq_none (redirect_eq_self (.inl htarget))] at h
    cases h
  | some target =>
    by_cases hdefault : target = table.defaultNamespace
    · rw [hdefault] at htarget
      rw [patch?_eq_none (redirect_eq_self (.inr (.inl htarget)))] at h
      cases h
    · by_cases hnames : ∃ asked ∈ object.spec.requests,
          asked.registryNamespace = table.defaultNamespace
      · rw [patch?_eq_some htarget hdefault hnames] at h
        exact ⟨target, rfl, hdefault, (Option.some.inj h).symm⟩
      · have hnames : ∀ asked ∈ object.spec.requests,
            asked.registryNamespace ≠ table.defaultNamespace :=
          fun asked hmem hname => hnames ⟨asked, hmem, hname⟩
        rw [patch?_eq_none (redirect_eq_self (.inr (.inr hnames)))] at h
        cases h

end OperandRequest

/-! ### Accepted tables -/

/-- **What an accepted table is good for.**  Every operand request gets a verdict.  Everybody has the
target of their own mapping, nobody else has it, and it is not the control namespace, whose requests
are left as they are; a patch sends requests to this target and nowhere else.  The order of the table
makes no difference, neither for being accepted nor for any verdict. -/
theorem MappingTable.accepted_sound {configMap : ConfigMap}
    (haccepted : configMap.tableVerdict = .ok .allowed) :
    ∃ table, MappingTable.ofConfigMap? configMap = some table ∧
      (∀ object : OperandRequest, ∃ verdict, object.verdict (some configMap) = .ok verdict) ∧
      (∀ mapping ∈ table.mappings, ∀ name ∈ mapping.requests,
        table.target? name = some mapping.target) ∧
      (∀ object : OperandRequest, object.requester = table.control →
        object.redirect object.requester table = object ∧
          object.verdict (some configMap) = .ok .allowed) ∧
      (∀ (object : OperandRequest) (patch : Json.Patch),
        object.verdict (some configMap) = .ok (.patched patch) →
          ∃ target, table.target? object.requester = some target ∧ target ≠ table.control ∧
            patch = object.redirections table.defaultNamespace target) ∧
      (∀ (position position' : Nat) (mapping other : TenantMapping), position ≠ position' →
        table.mappings[position]? = some mapping → table.mappings[position']? = some other →
          ∀ name ∈ mapping.requests, ∀ name' ∈ other.requests,
            table.target? name ≠ table.target? name') ∧
      ∀ (reordered : ConfigMap) (table' : MappingTable),
        MappingTable.ofConfigMap? reordered = some table' → table.Reordered table' →
          reordered.tableVerdict = .ok .allowed ∧
            ∀ object : OperandRequest,
              object.verdict (some reordered) = object.verdict (some configMap) := by
  obtain ⟨table, htable, hformed⟩ := MappingTable.tableVerdict_eq_allowed_iff.1 haccepted
  have hverdict := OperandRequest.verdict_of_ofConfigMap? htable
  have htarget : ∀ mapping ∈ table.mappings, ∀ name ∈ mapping.requests,
      table.target? name = some mapping.target :=
    fun mapping hmem name hname => hformed.target?_eq_some_iff.2 ⟨mapping, hmem, hname, rfl⟩
  refine ⟨table, htable, fun object => ⟨_, hverdict object⟩, htarget, ?_, ?_, ?_, ?_⟩
  · intro object hcontrol
    have hnone : table.target? object.requester = none := by
      rw [hcontrol]
      exact hformed.target?_control
    have hsame : object.redirect object.requester table = object :=
      OperandRequest.redirect_eq_self (.inl hnone)
    rw [hverdict, OperandRequest.patch?_eq_none hsame]
    exact ⟨hsame, rfl⟩
  · intro object patch hpatched
    rw [hverdict] at hpatched
    cases hpatch : object.patch? table with
    | none =>
      rw [hpatch] at hpatched
      cases hpatched
    | some found =>
      rw [hpatch] at hpatched
      cases hpatched
      obtain ⟨target, hfound, _, heq⟩ := OperandRequest.exists_of_patch?_eq_some hpatch
      exact ⟨target, hfound, hformed.ne_control_of_target?_eq_some hfound, heq⟩
  · intro position position' mapping other hne hmapping hother name hname name' hname'
    rw [htarget mapping (List.mem_of_getElem? hmapping) name hname,
      htarget other (List.mem_of_getElem? hother) name' hname']
    intro heq
    exact hformed.target_ne_of_ne hne hmapping hother (Option.some.inj heq)
  · intro reordered table' htable' horder
    constructor
    · exact MappingTable.tableVerdict_eq_allowed_iff.2 ⟨table', htable', horder.wellFormed hformed⟩
    · intro object
      rw [hverdict, OperandRequest.verdict_of_ofConfigMap? htable',
        OperandRequest.patch?_congr (horder.target?_eq hformed _) horder.defaultNamespace_eq]

def ConfigMap.holding (text : String) : ConfigMap where
  binaryData := none
  data := some (.ofList [(MappingTable.dataKey, text)])
  immutable := none
  metadata := {}

def MappingTable.sampleText : String :=
  "controlNamespace: ctl\n" ++
  "namespaceMapping:\n" ++
  "- requested-from-namespace: [web, lab]\n" ++
  "  map-to-common-service-namespace: own\n" ++
  "- requested-from-namespace: shop\n" ++
  "  map-to-common-service-namespace: far\n"

def MappingTable.reorderedText : String :=
  "controlNamespace: ctl\n" ++
  "namespaceMapping:\n" ++
  "- requested-from-namespace: shop\n" ++
  "  map-to-common-service-namespace: far\n" ++
  "- requested-from-namespace: [lab, web]\n" ++
  "  map-to-common-service-namespace: own\n"

/-- The sample table is accepted, and so is the other order of it, with the same verdicts. -/
theorem MappingTable.accepted_sound_sample :
    (ConfigMap.holding sampleText).tableVerdict = .ok .allowed ∧
      (ConfigMap.holding reorderedText).tableVerdict = .ok .allowed ∧
      ∃ table, MappingTable.ofConfigMap? (.holding sampleText) = some table ∧
        table.target? "lab" = some "own" ∧ table.target? "shop" = some "far" ∧
        ∀ object : OperandRequest, object.verdict (some (.holding reorderedText)) =
          object.verdict (some (.holding sampleText)) := by
  have htable : MappingTable.ofConfigMap? (.holding sampleText) =
      some ⟨"ctl", none, [⟨["web", "lab"], "own"⟩, ⟨["shop"], "far"⟩]⟩ := by decide +kernel
  have hreordered : MappingTable.ofConfigMap? (.holding reorderedText) =
      some ⟨"ctl", none, [⟨["shop"], "far"⟩, ⟨["lab", "web"], "own"⟩]⟩ := by decide +kernel
  have haccepted : (ConfigMap.holding sampleText).tableVerdict = .ok .allowed :=
    tableVerdict_eq_allowed_iff.2 ⟨_, htable, violation?_eq_none_iff.1 (by decide)⟩
  obtain ⟨table, hfound, _, htarget, _, _, _, horder⟩ := accepted_sound haccepted
  obtain rfl := Option.some.inj (htable.symm.trans hfound)
  have horders : Reordered ⟨"ctl", none, [⟨["web", "lab"], "own"⟩, ⟨["shop"], "far"⟩]⟩
      ⟨"ctl", none, [⟨["shop"], "far"⟩, ⟨["lab", "web"], "own"⟩]⟩ :=
    ⟨rfl, rfl, _, .swap _ _ [], .cons ⟨rfl, .refl _⟩ (.cons ⟨rfl, .swap _ _ []⟩ .nil)⟩
  obtain ⟨hacceptedOrder, hverdict⟩ := horder _ _ hreordered horders
  refine ⟨haccepted, hacceptedOrder, _, htable, ?_, ?_, hverdict⟩
  · exact htarget ⟨["web", "lab"], "own"⟩ (by decide) "lab" (by decide)
  · exact htarget ⟨["shop"], "far"⟩ (by decide) "shop" (by decide)

end WebhookOperator
