import WebhookOperator.Health.Page

/-!
# Probes

The cluster asks the operator whether it lives and whether it is ready, and metrics are read from a
page. Each is a path that is only read from.
-/

namespace WebhookOperator

structure HealthState where
  ready : Bool := false
  metrics : Metrics := {}
  /-- When all registration objects were last found or made right. -/
  lastReconcile : Option Nat := none
deriving DecidableEq, Inhabited

structure HttpReply where
  status : Nat
  contentType : Option String := none
  body : String := ""
deriving DecidableEq, Inhabited

/-- The path of a request, without what follows a question mark. -/
def requestPath (target : String) : String := String.ofList (target.toList.takeWhile (· ≠ '?'))

namespace HealthState

def setReady (state : HealthState) (ready : Bool) : HealthState := { state with ready := ready }

/-- Stamps the time at which all registration objects were right. -/
def touch (state : HealthState) (now : Nat) : HealthState :=
  { state with lastReconcile := some now }

def content? (state : HealthState) (path : String) : Option HttpReply :=
  let plain := some "text/plain; charset=utf-8"
  match path with
  | "/healthz" => some { status := 200, contentType := plain, body := "ok" }
  | "/readyz" =>
    if state.ready then some { status := 200, contentType := plain, body := "ready" }
    else some { status := 503, contentType := plain, body := "not ready" }
  | "/metrics" => some {
      status := 200
      contentType := some "text/plain; version=0.0.4; charset=utf-8"
      body := state.metrics.page }
  | _ => none

def respond (state : HealthState) (method target : String) : HttpReply :=
  match state.content? (requestPath target) with
  | none => { status := 404 }
  | some reply =>
    if method = "GET" then reply
    else if method = "HEAD" then { reply with body := "" }
    else { status := 405 }

end HealthState

end WebhookOperator
