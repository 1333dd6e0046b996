import WebhookOperator.Api.Client

/-!
# Runs of sessions

A session is run against whatever answers its requests.  Its run goes through its parts in order, so
what a part gets and asks is found one part after the other.

Often it is enough to know what a session may ask at all, whatever the answers are.  `Session.Asks`
says so, and it goes through the parts of a session like a run does.

* `Session.run_bind`, `Session.run_bind_of_run`: a run goes through the parts of a session in order
* `run_send`, `run_send_of_eq_none`: a request is sent where it makes a target, and else not at all
* `Session.Asks.bind`, `asks_send`: what the parts ask is all that the whole asks
* `Session.Asks.of_mem_run`: a run asks nothing else
* `Session.Asks.run_congr`: who answers these requests alike gives the same run
-/

namespace WebhookOperator.Api

variable {α β σ : Type}

namespace Session

theorem run_bind (serve : σ → Request → Reply × σ) (state : σ) (session : Session α)
    (next : α → Session β) :
    (session >>= next).run serve state =
      (((next (session.run serve state).1).run serve (session.run serve state).2.2).1,
        (session.run serve state).2.1 ++
          ((next (session.run serve state).1).run serve (session.run serve state).2.2).2.1,
        ((next (session.run serve state).1).run serve (session.run serve state).2.2).2.2) := by
  induction session generalizing state with
  | done => rfl
  | call request continued ih =>
    exact congrArg (fun run => (run.1, request :: run.2.1, run.2.2)) (ih _ _)

theorem run_bind_of_run {serve : σ → Request → Reply × σ} {state middle : σ} {session : Session α}
    {value : α} {requests : List Request} (h : session.run serve state = (value, requests, middle))
    (next : α → Session β) :
    (session >>= next).run serve state =
      (((next value).run serve middle).1, requests ++ ((next value).run serve middle).2.1,
        ((next value).run serve middle).2.2) := by
  rw [run_bind, h]

end Session

theorem run_send (serve : σ → Request → Reply × σ) (state : σ) (codec : Codec α)
    (request : Request) {uri : String} (h : target? request.uri = some uri) :
    (send codec request).run serve state =
      (result codec (serve state { request with uri := uri }).1, [{ request with uri := uri }],
        (serve state { request with uri := uri }).2) := by
  rw [send, h]
  rfl

theorem run_send_of_eq_none (serve : σ → Request → Reply × σ) (state : σ) (codec : Codec α)
    (request : Request) (h : target? request.uri = none) :
    (send codec request).run serve state = (.error .badTarget, [], state) := by
  rw [send, h]
  rfl

/-! ### What a session may ask -/

namespace Session

/-- Every request of the session has a property, whatever the answers are. -/
inductive Asks (P : Request → Prop) : Session α → Prop
  | done (result : α) : Asks P (.done result)
  | call {request : Request} {next : Reply → Session α} (h : P request)
      (rest : ∀ reply, Asks P (next reply)) : Asks P (.call request next)

namespace Asks

variable {P Q : Request → Prop} {session : Session α}

theorem bind (h : session.Asks P) {next : α → Session β} (hnext : ∀ value, (next value).Asks P) :
    (session >>= next).Asks P := by
  induction h with
  | done result => exact hnext result
  | call hrequest _ ih => exact .call hrequest ih

theorem mono (h : session.Asks P) (himp : ∀ request, P request → Q request) : session.Asks Q := by
  induction h with
  | done result => exact .done result
  | call hrequest _ ih => exact .call (himp _ hrequest) ih

theorem of_mem_run (h : session.Asks P) (serve : σ → Request → Reply × σ) (state : σ) :
    ∀ request ∈ (session.run serve state).2.1, P request := by
  induction h generalizing state with
  | done result => exact fun _ hmem => absurd hmem List.not_mem_nil
  | call hrequest _ ih => exact List.forall_mem_cons.2 ⟨hrequest, ih _ _⟩

/-- Who answers these requests alike gives the same run. -/
theorem run_congr (h : session.Asks P) {serve serve' : σ → Request → Reply × σ}
    (hsame : ∀ state request, P request → serve' state request = serve state request) (state : σ) :
    session.run serve' state = session.run serve state := by
  induction h generalizing state with
  | done result => rfl
  | call hrequest _ ih =>
    rw [run, run, hsame state _ hrequest]
    simp only [ih]

end Asks

end Session

theorem asks_send (codec : Codec α) {P : Request → Prop} {request : Request}
    (h : ∀ uri, target? request.uri = some uri → P { request with uri := uri }) :
    (Api.send codec request).Asks P := by
  rw [Api.send]
  cases htarget : target? request.uri with
  | none => exact .done _
  | some uri => exact .call (h uri htarget) fun _ => .done _

end WebhookOperator.Api
