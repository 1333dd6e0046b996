import WebhookOperator.Registration.Desired

/-!
# Plans

Which write brings a live object to the desired one.
-/

namespace WebhookOperator

inductive Plan (kind : WebhookKind) where
  | create (object : WebhookConfiguration kind)
  /-- The object carries the version of the live object that it was made from. -/
  | replace (object : WebhookConfiguration kind)
  | unchanged
deriving DecidableEq

namespace Plan

def toward {kind : WebhookKind} (desired : WebhookConfiguration kind) :
    Option (WebhookConfiguration kind) → Plan kind
  | none => create desired
  | some live => if live.isConverged desired then unchanged else replace (live.adopt desired)

def written? {kind : WebhookKind} : Plan kind → Option (WebhookConfiguration kind)
  | create object | replace object => some object
  | unchanged => none

end Plan

end WebhookOperator
