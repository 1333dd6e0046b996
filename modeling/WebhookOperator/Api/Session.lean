import WebhookOperator.Json.Reader
import WebhookOperator.Json.Render

/-!
# Conversations with the cluster

A session is a computation that asks the cluster and goes on with what it answers. It says nothing
about how the answers come about, so the same session runs against a script of answers, against a
store of objects, or against a network.
-/

namespace WebhookOperator.Api

/-- What a request does with the object that it names. -/
inductive Method where
  | get
  | post
  | put
deriving DecidableEq, Inhabited

structure Request where
  method : Method
  uri : String
  body : Option Json := none
deriving DecidableEq, Inhabited

/-- The content of an answer: its text, and the document that the text is. -/
structure Payload where
  text : String
  document : Option Json
deriving DecidableEq, Inhabited

inductive Reply where
  | answered (status : Nat) (payload : Payload)
  /-- No answer came. -/
  | failed (message : String)
deriving DecidableEq, Inhabited

def Method.text : Method → String
  | get => "GET"
  | post => "POST"
  | put => "PUT"

namespace Payload

def ofText (text : String) : Payload := ⟨text, Json.ofText? text⟩

def ofJson (document : Json) : Payload := ⟨document.render, some document⟩

end Payload

/-- A computation that asks the cluster. -/
inductive Session (α : Type) where
  | done (result : α)
  | call (request : Request) (next : Reply → Session α)

namespace Session

def bind : Session α → (α → Session β) → Session β
  | done result, next => next result
  | call request continued, next => call request fun reply => (continued reply).bind next

instance : Monad Session where
  pure := done
  bind := bind

def ask (request : Request) : Session Reply := call request done

def run (serve : σ → Request → Reply × σ) (state : σ) : Session α → α × List Request × σ
  | done result => (result, [], state)
  | call request next =>
    let (reply, state) := serve state request
    let (result, requests, state) := (next reply).run serve state
    (result, request :: requests, state)

/-- What answers the requests of a session from a script: one reply after the other, and at last
the given one. -/
def script (exhausted : Reply) (replies : List Reply) (_ : Request) : Reply × List Reply :=
  match replies with
  | [] => (exhausted, [])
  | reply :: rest => (reply, rest)

end Session

end WebhookOperator.Api
