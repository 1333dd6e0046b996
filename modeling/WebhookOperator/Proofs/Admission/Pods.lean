import WebhookOperator.Proofs.Admission.Object
import WebhookOperator.Proofs.Api.Running
import WebhookOperator.Proofs.Injection.Matching
import WebhookOperator.Proofs.Injection.Outcome

/-!
# What is decided about pods

A pod is refused only for want of a decision: because it does not read, because the presets of its
namespace are not to be had, or because one of them has a selector that cannot be used.  A conflict of
presets is no reason to refuse it, and neither is anything that another namespace's presets say.

* `Review.exists_response`: what the answer to a question says
* `run_handlePod`: the decision, once the presets are known
* `handlePod_rejects_exactly`: when a pod is refused, and what the decision does not depend on
-/

namespace WebhookOperator

open Api

/-- The answer to a question admits what the verdict admits, and changes what it changes. -/
theorem Review.exists_response (review : Review) (request : ReviewRequest) (verdict : Verdict) :
    ∃ response, (review.answer request verdict).response = some response ∧
      response.allowed = verdict.admits ∧
      ∀ patch, response.patch = some patch ↔ verdict = .patched patch := by
  cases verdict with
  | patched patch => exact ⟨_, rfl, rfl, fun other => by simp⟩
  | _ => exact ⟨_, rfl, rfl, fun other => by simp⟩

namespace ReviewRequest

/-- The namespace whose presets a pod gets: the one of the request, or else the pod's. -/
def podNamespace (request : ReviewRequest) (pod : Pod) : String :=
  (request.namespaceName.or pod.metadata.namespaceName).getD ""

end ReviewRequest

namespace Pod

variable {pod : Pod} {podNamespace : String} {presets : List PodPreset}

theorem exists_inject_eq_error_iff (hexclusion : pod.exclusion = none) :
    (∃ error, pod.inject podNamespace presets = .error error) ↔
      ∃ preset ∈ presets, preset.metadata.namespaceName = some podNamespace ∧
        ∃ cause, preset.spec.selector.requirements = .error cause := by
  have hmatching : (∃ error, PodPreset.matching presets podNamespace pod.metadata.labelDict =
      .error error) ↔ _ := PodPreset.exists_matching_eq_error_iff
  rw [← hmatching]
  simp only [inject, hexclusion]
  cases PodPreset.matching presets podNamespace pod.metadata.labelDict with
  | error error => exact ⟨fun _ => ⟨error, rfl⟩, fun _ => ⟨error, rfl⟩⟩
  | ok matched =>
    constructor
    · rintro ⟨error, herror⟩
      simp only [bind, Except.bind] at herror
      split at herror
      · cases herror
      · split at herror
        · cases herror
        · cases herror
    · rintro ⟨error, herror⟩
      cases herror

theorem inject_congr {others : List PodPreset}
    (h : others.filter (·.metadata.namespaceName = some podNamespace) =
      presets.filter (·.metadata.namespaceName = some podNamespace)) :
    pod.inject podNamespace others = pod.inject podNamespace presets := by
  rw [inject, inject, PodPreset.matching_congr h]

theorem admits_decision (pod : Pod) (podNamespace : String) (injection : Injection) :
    (pod.decision podNamespace injection).verdict.admits = true := by
  change (Verdict.ofPatch? (pod.patch? injection)).admits = true
  cases pod.patch? injection with
  | none => rfl
  | some patch => rfl

end Pod

section Run

variable {σ : Type} (serve : σ → Request → Reply × σ) (state : σ) {request : ReviewRequest} {pod : Pod}

/-- What comes of asking for the presets of a namespace. -/
def PodPreset.listedIn (podNamespace : String) : Except ApiError (List PodPreset) :=
  ((PodPreset.resource podNamespace).list.run serve state).1.map (·.items)

theorem run_handlePod_unread {error : AdmissionError}
    (h : request.objectAs "Pod" Pod.codec = .error error) :
    (handlePod request).run serve state = (.error error, [], state) := by
  rw [handlePod, h]
  rfl

theorem run_handlePod_excluded (h : request.objectAs "Pod" Pod.codec = .ok pod)
    (hexclusion : pod.exclusion.isSome) :
    (handlePod request).run serve state = (.ok { verdict := .allowed }, [], state) := by
  simp only [handlePod, h]
  rw [if_pos hexclusion]
  rfl

theorem run_handlePod (h : request.objectAs "Pod" Pod.codec = .ok pod)
    (hexclusion : pod.exclusion = none) :
    ((handlePod request).run serve state).1 =
      match PodPreset.listedIn serve state (request.podNamespace pod) with
      | .error error => .error (.api error)
      | .ok presets =>
        match pod.inject (request.podNamespace pod) presets with
        | .error error => .error (.selector error)
        | .ok injection => .ok (pod.decision (request.podNamespace pod) injection) := by
  have hincluded : ¬pod.exclusion.isSome := by
    rw [hexclusion]
    decide
  simp only [handlePod, h]
  rw [if_neg hincluded, Session.run_bind, PodPreset.listedIn, ReviewRequest.podNamespace]
  cases ((PodPreset.resource ((request.namespaceName.or pod.metadata.namespaceName).getD "")).list.run
      serve state).1 with
  | error error => rfl
  | ok presets => rfl

theorem admits_of_run_handlePod {decision : Decision}
    (h : ((handlePod request).run serve state).1 = .ok decision) :
    decision.verdict.admits = true := by
  cases hread : request.objectAs "Pod" Pod.codec with
  | error error =>
    rw [run_handlePod_unread serve state hread] at h
    cases h
  | ok pod =>
    cases hexclusion : pod.exclusion with
    | some reason =>
      rw [run_handlePod_excluded serve state hread (hexclusion ▸ rfl)] at h
      cases h
      rfl
    | none =>
      rw [run_handlePod serve state hread hexclusion] at h
      split at h
      · cases h
      · split at h
        · cases h
        · cases h
          exact pod.admits_decision _ _

/-- When there is no decision. -/
theorem exists_run_handlePod_eq_error_iff :
    (∃ error, ((handlePod request).run serve state).1 = .error error) ↔
      (request.object = none ∨ ∃ object, request.object = some object ∧
        Pod.codec.decode (AnyObject.codec.encode object) = none) ∨
      ∃ pod, request.objectAs "Pod" Pod.codec = .ok pod ∧ pod.exclusion = none ∧
        ((∃ error, PodPreset.listedIn serve state (request.podNamespace pod) = .error error) ∨
          ∃ presets, PodPreset.listedIn serve state (request.podNamespace pod) = .ok presets ∧
            ∃ preset ∈ presets, preset.metadata.namespaceName = some (request.podNamespace pod) ∧
              ∃ cause, preset.spec.selector.requirements = .error cause) := by
  have hunread : (∃ error, request.objectAs "Pod" Pod.codec = .error error) ↔ _ :=
    ReviewRequest.exists_objectAs_eq_error_iff
  rw [← hunread]
  cases hread : request.objectAs "Pod" Pod.codec with
  | error error =>
    rw [run_handlePod_unread serve state hread]
    simp
  | ok pod =>
    cases hexclusion : pod.exclusion with
    | some reason =>
      rw [run_handlePod_excluded serve state hread (hexclusion ▸ rfl)]
      simp [hexclusion]
    | none =>
      rw [run_handlePod serve state hread hexclusion]
      cases hlisted : PodPreset.listedIn serve state (request.podNamespace pod) with
      | error error => simp [hexclusion, hlisted]
      | ok presets =>
        have hinject : (∃ error, pod.inject (request.podNamespace pod) presets = .error error) ↔ _ :=
          Pod.exists_inject_eq_error_iff hexclusion
        have hdecision : (∃ error, (match pod.inject (request.podNamespace pod) presets with
            | .error error => (.error (.selector error) : Except AdmissionError Decision)
            | .ok injection => .ok (pod.decision (request.podNamespace pod) injection)) =
              .error error) ↔
            ∃ error, pod.inject (request.podNamespace pod) presets = .error error := by
          cases pod.inject (request.podNamespace pod) presets with
          | error error => simp
          | ok injection => simp
        rw [hdecision, hinject]
        simp [hexclusion, hlisted]

/-- The presets of other namespaces make no difference to the decision. -/
theorem run_handlePod_congr {τ : Type} {serve' : τ → Request → Reply × τ} {state' : τ}
    (h : ∀ pod, request.objectAs "Pod" Pod.codec = .ok pod → ∃ presets others,
      PodPreset.listedIn serve state (request.podNamespace pod) = .ok presets ∧
      PodPreset.listedIn serve' state' (request.podNamespace pod) = .ok others ∧
      others.filter (·.metadata.namespaceName = some (request.podNamespace pod)) =
        presets.filter (·.metadata.namespaceName = some (request.podNamespace pod))) :
    ((handlePod request).run serve' state').1 = ((handlePod request).run serve state).1 := by
  cases hread : request.objectAs "Pod" Pod.codec with
  | error error =>
    rw [run_handlePod_unread serve state hread, run_handlePod_unread serve' state' hread]
  | ok pod =>
    cases hexclusion : pod.exclusion with
    | some reason =>
      have hexcluded : pod.exclusion.isSome := hexclusion ▸ rfl
      rw [run_handlePod_excluded serve state hread hexcluded,
        run_handlePod_excluded serve' state' hread hexcluded]
    | none =>
      obtain ⟨presets, others, hlisted, hlisted', hfilter⟩ := h pod hread
      rw [run_handlePod serve state hread hexclusion, run_handlePod serve' state' hread hexclusion,
        hlisted, hlisted']
      simp only [Pod.inject_congr hfilter]

theorem run_handle_podPreset (request : ReviewRequest) :
    ((HandlerKind.podPreset.handle request).run serve state).1 =
      match ((handlePod request).run serve state).1 with
      | .ok decision => decision
      | .error error => { verdict := .ofError error } := by
  rw [HandlerKind.handle, Session.run_bind]
  cases ((handlePod request).run serve state).1 with
  | ok decision => rfl
  | error error => rfl

theorem admits_run_handle_eq_false_iff (request : ReviewRequest) :
    ((HandlerKind.podPreset.handle request).run serve state).1.verdict.admits = false ↔
      ∃ error, ((handlePod request).run serve state).1 = .error error := by
  rw [run_handle_podPreset]
  cases hresult : ((handlePod request).run serve state).1 with
  | error error => exact ⟨fun _ => ⟨error, rfl⟩, fun _ => rfl⟩
  | ok decided =>
    have hadmits : decided.verdict.admits = true := admits_of_run_handlePod serve state hresult
    simp [hadmits]

theorem run_handle_ne_denied (request : ReviewRequest) (reason : String) :
    ((HandlerKind.podPreset.handle request).run serve state).1.verdict ≠ .denied reason := by
  intro hdenied
  rw [run_handle_podPreset] at hdenied
  cases hresult : ((handlePod request).run serve state).1 with
  | error error =>
    rw [hresult] at hdenied
    cases hdenied
  | ok decided =>
    have hadmits : decided.verdict.admits = true := admits_of_run_handlePod serve state hresult
    rw [hresult] at hdenied
    rw [hdenied] at hadmits
    cases hadmits

end Run

/-- **When a pod is refused, and what the decision does not depend on.**  A pod is refused exactly when
it does not read, or is not excluded and the presets of its namespace are not to be had or one of
them has a selector that cannot be used.  It is never denied, and a pod for which presets conflict is
admitted as it is.  Whatever the presets of other namespaces are, the decision is the same. -/
theorem handlePod_rejects_exactly (review : Review) (request : ReviewRequest) {σ : Type}
    (serve : σ → Request → Reply × σ) (state : σ) :
    ∃ decision response,
      ((HandlerKind.podPreset.handle request).run serve state).1 = decision ∧
      (review.answer request decision.verdict).response = some response ∧
      (response.allowed = false ↔
        (request.object = none ∨ ∃ object, request.object = some object ∧
          Pod.codec.decode (AnyObject.codec.encode object) = none) ∨
        ∃ pod, request.objectAs "Pod" Pod.codec = .ok pod ∧ pod.exclusion = none ∧
          ((∃ error, PodPreset.listedIn serve state (request.podNamespace pod) = .error error) ∨
            ∃ presets, PodPreset.listedIn serve state (request.podNamespace pod) = .ok presets ∧
              ∃ preset ∈ presets, preset.metadata.namespaceName = some (request.podNamespace pod) ∧
                ∃ cause, preset.spec.selector.requirements = .error cause)) ∧
      (∀ reason, decision.verdict ≠ .denied reason) ∧
      (∀ pod presets names conflicts, request.objectAs "Pod" Pod.codec = .ok pod →
        PodPreset.listedIn serve state (request.podNamespace pod) = .ok presets →
        pod.inject (request.podNamespace pod) presets = .ok (.conflicted names conflicts) →
        decision = { verdict := .allowed, conflictIn := some (request.podNamespace pod) } ∧
          response.allowed = true ∧ response.patch = none) ∧
      ∀ (τ : Type) (serve' : τ → Request → Reply × τ) (state' : τ),
        (∀ pod, request.objectAs "Pod" Pod.codec = .ok pod → ∃ presets others,
          PodPreset.listedIn serve state (request.podNamespace pod) = .ok presets ∧
          PodPreset.listedIn serve' state' (request.podNamespace pod) = .ok others ∧
          others.filter (·.metadata.namespaceName = some (request.podNamespace pod)) =
            presets.filter (·.metadata.namespaceName = some (request.podNamespace pod))) →
        ((handlePod request).run serve' state').1 = ((handlePod request).run serve state).1 ∧
          ((HandlerKind.podPreset.handle request).run serve' state').1 = decision := by
  have hdecision := run_handle_podPreset serve state request
  have hrejected := admits_run_handle_eq_false_iff serve state request
  have hdenied := run_handle_ne_denied serve state request
  generalize ((HandlerKind.podPreset.handle request).run serve state).1 = decision at *
  obtain ⟨response, hresponse, hallowed, hpatch⟩ := review.exists_response request decision.verdict
  refine ⟨decision, response, rfl, hresponse, ?_, hdenied, ?_, ?_⟩
  · rw [hallowed, ← exists_run_handlePod_eq_error_iff, hrejected]
  · intro pod presets names conflicts hread hlisted hinject
    have hexclusion : pod.exclusion = none := by
      cases hexclusion : pod.exclusion with
      | none => rfl
      | some reason =>
        simp only [Pod.inject, hexclusion] at hinject
        cases hinject
    rw [run_handlePod serve state hread hexclusion, hlisted] at hdecision
    simp only [hinject] at hdecision
    have hadmitted : decision.verdict = .allowed := by
      rw [hdecision]
      rfl
    refine ⟨hdecision, ?_, ?_⟩
    · rw [hallowed, hadmitted]
      rfl
    · cases hresult : response.patch with
      | none => rfl
      | some patch =>
        rw [hpatch, hadmitted] at hresult
        cases hresult
  · intro τ serve' state' hsame
    have hrun := run_handlePod_congr serve state hsame
    rw [run_handle_podPreset, hrun]
    exact ⟨rfl, hdecision.symm⟩

/-- A cluster that answers every request with a list of presets. -/
def PodPreset.served (presets : List PodPreset) (_ : Unit) (_ : Request) : Reply × Unit :=
  (.answered 200 (.ofJson ((ObjectList.codec PodPreset.codec).encode ⟨{}, presets⟩)), ())

def PodPreset.broken (inNamespace : String) : PodPreset where
  metadata := { name := some "near", namespaceName := some inNamespace, resourceVersion := some "3" }
  spec := { selector := { matchExpressions := some [⟨"tier", "Near", none⟩] } }

/-- A question about the sample pod. -/
def ReviewRequest.aboutSample : ReviewRequest :=
  { (default : ReviewRequest) with
    namespaceName := some "web"
    object := AnyObject.codec.decode (Pod.codec.encode .sample) }

/-- A broken selector in another namespace makes no difference to the sample pod; in its own namespace
it keeps the pod out. -/
theorem handlePod_rejects_exactly_sample :
    ((handlePod .aboutSample).run (PodPreset.served [.broken "lab", .sample]) ()).1 =
        ((handlePod .aboutSample).run (PodPreset.served [.sample]) ()).1 ∧
      ∃ response, (Review.invalid.answer .aboutSample
        ((HandlerKind.podPreset.handle .aboutSample).run
          (PodPreset.served [.broken "web"]) ()).1.verdict).response = some response ∧
        response.allowed = false := by
  have hread : ReviewRequest.aboutSample.objectAs "Pod" Pod.codec = .ok .sample := by decide +kernel
  have hnamespace : ReviewRequest.aboutSample.podNamespace .sample = "web" := by decide
  constructor
  · obtain ⟨_, _, _, _, _, _, _, hsame⟩ :=
      handlePod_rejects_exactly .invalid .aboutSample (PodPreset.served [.sample]) ()
    refine (hsame Unit (PodPreset.served [.broken "lab", .sample]) () fun pod hpod => ?_).1
    obtain rfl := Except.ok.inj (hread.symm.trans hpod)
    rw [hnamespace]
    exact ⟨[.sample], [.broken "lab", .sample], by decide +kernel, by decide +kernel, by decide⟩
  · obtain ⟨_, response, rfl, hresponse, hrejected, _⟩ :=
      handlePod_rejects_exactly .invalid .aboutSample (PodPreset.served [.broken "web"]) ()
    refine ⟨response, hresponse, hrejected.2 (.inr ⟨_, hread, by decide, .inr ⟨[.broken "web"], ?_, ?_⟩⟩)⟩
    · rw [hnamespace]
      decide +kernel
    · exact ⟨_, List.mem_singleton.2 rfl, rfl, .unknownOperator, rfl⟩

end WebhookOperator
