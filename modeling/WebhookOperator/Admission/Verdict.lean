import WebhookOperator.Admission.Error
import WebhookOperator.Json.Patch

/-!
# Verdicts

What is decided about one admission request.
-/

namespace WebhookOperator

inductive Verdict where
  | allowed
  /-- Admitted with changes. -/
  | patched (patch : Json.Patch)
  | denied (reason : String)
  /-- There is no decision, and so no admission. -/
  | errored (code : UInt16) (message : String)
deriving DecidableEq, Inhabited

namespace Verdict

def outcome : Verdict → String
  | allowed => "allowed"
  | patched _ => "patched"
  | denied _ => "denied"
  | errored .. => "errored"

/-- Whether the object is admitted. -/
def admits : Verdict → Bool
  | allowed | patched _ => true
  | denied _ | errored .. => false

/-- Admits with the given changes, if there are any. -/
def ofPatch? : Option Json.Patch → Verdict
  | some patch => patched patch
  | none => allowed

/-- The verdict for want of a decision. -/
def ofError (error : AdmissionError) : Verdict := errored error.code error.message

def ofResult : Except AdmissionError Verdict → Verdict
  | .ok verdict => verdict
  | .error error => ofError error

end Verdict

end WebhookOperator
