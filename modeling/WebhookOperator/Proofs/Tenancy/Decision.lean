import WebhookOperator.Proofs.Api.Running
import WebhookOperator.Proofs.Tenancy.Acceptance

/-!
# What is decided about operand requests

The handler reads an operand request by way of an object of any kind, asks for the config map of the
mapping table, and answers with the patch of the redirection if there is one.

* `OperandRequest.run_handle`: the decision, once the mapping table is known
* `OperandRequest.redirects_exactly`: when there is a patch, what it is and what it does
-/

namespace WebhookOperator

open Api Json

/-- Whoever is asked for the config map of the mapping table answers with the given one. -/
def ConfigMap.Served {σ : Type} (configMap : ConfigMap) (serve : σ → Request → Reply × σ)
    (state : σ) : Prop :=
  (((resource MappingTable.configMapNamespace).find? MappingTable.configMapName).run serve state).1 =
    .ok (some configMap)

namespace OperandRequest

/-- What is decided once the mapping table is known. -/
theorem run_handle {request : ReviewRequest} {object : OperandRequest}
    (hread : request.objectAs "OperandRequest" codec = .ok object) {configMap : ConfigMap}
    {table : MappingTable} (htable : MappingTable.ofConfigMap? configMap = some table) {σ : Type}
    {serve : σ → Request → Reply × σ} {state : σ} (hserved : configMap.Served serve state) :
    ((HandlerKind.operandRequest.handle request).run serve state).1 =
      { verdict := .ofPatch? ((object.within request.namespaceName).patch? table) } := by
  rw [ConfigMap.Served] at hserved
  rw [HandlerKind.handle, Session.run_bind]
  simp only [handleOperandRequest, hread]
  rw [Session.run_bind, hserved]
  simp only [verdict_of_ofConfigMap? htable]
  rfl

/-- **Operand requests are sent elsewhere exactly as the table says.**  An operand request is admitted
as it is where its namespace has no target, where the target is the default, and where no request
names the default.  Otherwise each request that names the default is sent to the target, one after the
other in their order, and nothing else is changed in the document that the operand request was read
from.  What comes of it is admitted as it is. -/
theorem redirects_exactly {raw : Json} (hsorted : raw.Sorted) (hform : InObjectForm raw)
    {held : AnyObject} (hheld : AnyObject.codec.decode raw = some held) {request : ReviewRequest}
    (hobject : request.object = some held) {object : OperandRequest}
    (hread : request.objectAs "OperandRequest" codec = .ok object) {name : String}
    (hname : (object.metadata.namespaceName.or request.namespaceName).getD "" = name)
    {configMap : ConfigMap} {table : MappingTable}
    (htable : MappingTable.ofConfigMap? configMap = some table) {σ : Type}
    {serve : σ → Request → Reply × σ} {state : σ} (hserved : configMap.Served serve state) :
    ((table.target? name = none ∨ table.target? name = some table.defaultNamespace ∨
        ∀ asked ∈ object.spec.requests, asked.registryNamespace ≠ table.defaultNamespace) →
      ((HandlerKind.operandRequest.handle request).run serve state).1 = { verdict := .allowed }) ∧
    ∀ target, table.target? name = some target → target ≠ table.defaultNamespace →
      (∃ asked ∈ object.spec.requests, asked.registryNamespace = table.defaultNamespace) →
      ((HandlerKind.operandRequest.handle request).run serve state).1 =
        { verdict := .patched (object.redirections table.defaultNamespace target) } ∧
      (object.spec.positions table.defaultNamespace).Pairwise (· < ·) ∧
      (∀ position, (Pointer.mk (site position)).text =
        "/spec/requests/" ++ Nat.repr position ++ "/registryNamespace") ∧
      ∃ changed, (object.redirections table.defaultNamespace target).perform? raw = some changed ∧
        changed = resent table.defaultNamespace target raw ∧
        (∀ position ∈ object.spec.positions table.defaultNamespace,
          changed.follow? (site position) = RegistryRequest.written target) ∧
        (∀ place, (∀ position ∈ object.spec.positions table.defaultNamespace,
          Apart (site position) place) → changed.follow? place = raw.follow? place) ∧
        ∃ again, AnyObject.codec.decode changed = some again ∧
          ∀ (readmission : ReviewRequest) (τ : Type) (serve : τ → Request → Reply × τ) (state : τ),
            readmission.object = some again → configMap.Served serve state →
            ((HandlerKind.operandRequest.handle readmission).run serve state).1 =
              { verdict := .allowed } := by
  have hdecode := (ReviewRequest.objectAs_eq_ok_iff hobject).1 hread
  rw [run_handle hread htable hserved]
  constructor
  · intro hsame
    rw [← hname] at hsame
    rw [patch?_eq_none (redirect_eq_self hsame)]
    rfl
  · intro target htarget hne hnames
    rw [← hname] at htarget
    have hpatch : (object.within request.namespaceName).patch? table =
        some (object.redirections table.defaultNamespace target) :=
      patch?_eq_some htarget hne hnames
    have hsource := table.defaultNamespace_ne_empty
    obtain ⟨hleads, again, hagain, hsent⟩ :=
      leads_resent target hsource hsorted hform hheld hdecode
    rw [Leads, between_sent hsource hne] at hleads
    rw [hpatch]
    refine ⟨rfl, object.spec.positions_increasing _, text_site, _, hleads, rfl,
      fun position hposition => ?_, fun place hapart => ?_, again, hagain,
      fun readmission τ serve state hobject hserved => ?_⟩
    · exact follow?_resent hsource hform hheld hdecode hposition
    · refine Patch.follow?_perform? (fun operation => staysIn_redirections) hleads fun other hother => ?_
      obtain ⟨position, hposition, rfl⟩ := List.mem_map.1 hother
      exact hapart position hposition
    · have hread : readmission.objectAs "OperandRequest" codec =
          .ok (object.sent table.defaultNamespace target) :=
        (ReviewRequest.objectAs_eq_ok_iff hobject).2 hsent
      rw [run_handle hread htable hserved, patch?_eq_none]
      · rfl
      · refine redirect_eq_self (.inr (.inr fun asked hmem => ?_))
        exact OperandRequestSpec.ne_of_mem_sent hne hmem

def sampleDocument : Json :=
  .obj [("apiVersion", .str apiVersion), ("kind", .str "OperandRequest"),
    ("metadata", .obj [("clusterName", .str "east"), ("name", .str "shop")]),
    ("spec", .obj [("mode", .str "eager"), ("requests", .arr [
      .obj [("registry", .str "common"), ("registryNamespace", .str "own")],
      .obj [("note", .str "kept"), ("operands", .arr [.obj [("name", .str "db"), ("size", .null)]]),
        ("registry", .str "common"), ("registryNamespace", .str "ibm-common-services")]])])]

def sampleConfigMap : ConfigMap :=
  .holding ("namespaceMapping:\n" ++
    "- requested-from-namespace: web\n" ++
    "  map-to-common-service-namespace: own\n")

def sampleRequest : ReviewRequest :=
  { (default : ReviewRequest) with
    namespaceName := some "web"
    object := AnyObject.codec.decode sampleDocument }

/-- The second request of the sample document is sent elsewhere, and then nothing more is done. -/
theorem redirects_exactly_sample :
    ∃ changed again,
      ((HandlerKind.operandRequest.handle sampleRequest).run
        (fun _ _ => (.answered 200 (.ofJson (ConfigMap.codec.encode sampleConfigMap)), ())) ()).1 =
          { verdict := .patched [.replace ⟨site 1⟩ (.str "own")] } ∧
      Patch.perform? [.replace ⟨site 1⟩ (.str "own")] sampleDocument = some changed ∧
      changed.follow? (site 0) = sampleDocument.follow? (site 0) ∧
      AnyObject.codec.decode changed = some again ∧
      ((HandlerKind.operandRequest.handle { sampleRequest with object := some again }).run
        (fun _ _ => (.answered 200 (.ofJson (ConfigMap.codec.encode sampleConfigMap)), ())) ()).1 =
          { verdict := .allowed } := by
  have hsorted : sampleDocument.Sorted := by
    simp only [sampleDocument, Json.Sorted, SortedMembers, SortedItems]
    decide
  have hform : InObjectForm sampleDocument := by
    refine ⟨⟨_, rfl⟩, ?_⟩
    intro items hitems item hmem
    obtain rfl := Json.arr.inj (Option.some.inj hitems)
    rcases List.mem_pair.1 hmem with rfl | rfl
    · exact ⟨_, rfl⟩
    · exact ⟨_, rfl⟩
  obtain ⟨held, hheld⟩ : ∃ held, AnyObject.codec.decode sampleDocument = some held :=
    Option.isSome_iff_exists.1 (by decide +kernel)
  have hread : sampleRequest.objectAs "OperandRequest" codec = .ok ⟨{ name := some "shop" },
      ⟨[⟨"common", "own", [], none⟩, ⟨"common", "ibm-common-services", [⟨"db"⟩], none⟩]⟩⟩ := by
    decide +kernel
  have htable : MappingTable.ofConfigMap? sampleConfigMap =
      some { mappings := [⟨["web"], "own"⟩] } := by
    decide +kernel
  have hserved : sampleConfigMap.Served
      (fun _ _ => (.answered 200 (.ofJson (ConfigMap.codec.encode sampleConfigMap)), ())) () := by
    rw [ConfigMap.Served]
    decide +kernel
  obtain ⟨_, hpatched⟩ :=
    redirects_exactly hsorted hform hheld hheld hread rfl htable hserved
  obtain ⟨hverdict, _, _, changed, hperform, _, _, hframe, again, hagain, hadmitted⟩ :=
    hpatched "own" (by decide) (by decide) ⟨_, List.mem_cons_of_mem _ List.mem_cons_self, rfl⟩
  refine ⟨changed, again, hverdict, hperform, hframe _ fun position hposition => ?_, hagain,
    hadmitted _ _ _ _ rfl hserved⟩
  have hsecond : position = 1 := List.mem_singleton.1 hposition
  rw [hsecond]
  exact ⟨by decide, by decide⟩

end OperandRequest

end WebhookOperator
