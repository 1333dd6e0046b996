import WebhookOperator.Registration.Reconcile
import WebhookOperator.Text.FormUrl

/-!
# Watching the secret

The operator lists the secret with the certificates of its webhooks and then watches it. A secret
that is listed, added or changed is due at once, and after each round it is due again at the time
that the result of the round gives; an earlier change takes the place of that time. A secret that
was deleted stays due, but nothing is done about it when its time comes.

Time passes in whole seconds. All changes of one second are noticed before the round of that second.
-/

namespace WebhookOperator

open Api

/-- What the cluster tells about a secret that is watched. -/
inductive SecretChange where
  /-- The secret was added or changed. -/
  | applied (secret : Secret)
  | deleted (secret : Secret)
deriving DecidableEq, Inhabited

/-- What one secret is told from others by: its namespace and its name. -/
abbrev SecretKey := Option String × String

namespace Secret

def key (secret : Secret) : SecretKey :=
  (secret.metadata.namespaceName, secret.metadata.displayName)

def path (inNamespace : String) : String := "/api/v1/namespaces/" ++ inNamespace ++ "/secrets"

/-- The part of a query that selects the secret of a name. -/
def selection (name : String) : String :=
  "fieldSelector=" ++ Text.FormUrl.encode ("metadata.name=" ++ name)

/-- Lists the secrets of a name. -/
def listNamed (inNamespace name : String) : Session (Except ApiError (ObjectList Secret)) :=
  send (ObjectList.codec Secret.codec)
    { method := .get, uri := path inNamespace ++ "?&" ++ selection name ++ "&limit=500" }

/-- The request for all changes of the secrets of a name since a version of their list. -/
def watchNamed (inNamespace name version : String) : Request where
  method := .get
  uri := path inNamespace ++ "?&watch=true&timeoutSeconds=290&" ++ selection name ++
    "&allowWatchBookmarks=true&resourceVersion=" ++ Text.FormUrl.encode version

end Secret

/-- Reads a change from what the cluster sends. Other news than that of a secret is passed over. -/
def SecretChange.ofJson? (document : Json) : Option SecretChange := do
  let secret ← Secret.codec.decode (← document.member? "object")
  match ← (← document.member? "type").string? with
  | "ADDED" | "MODIFIED" => return applied secret
  | "DELETED" => return deleted secret
  | _ => none

structure Watch where
  secrets : List (SecretKey × Secret) := []
  due : List (SecretKey × Nat) := []
  health : HealthState := {}
deriving DecidableEq, Inhabited

namespace Watch

def schedule (watch : Watch) (key : SecretKey) (time : Nat) : Watch :=
  { watch with due := watch.due.filter (·.1 ≠ key) ++ [(key, time)] }

def notice (watch : Watch) (now : Nat) : SecretChange → Watch
  | .applied secret =>
    let secrets := watch.secrets.filter (·.1 ≠ secret.key) ++ [(secret.key, secret)]
    schedule { watch with secrets := secrets } secret.key now
  | .deleted secret => { watch with secrets := watch.secrets.filter (·.1 ≠ secret.key) }

def visit (operator : Operator) (now : Nat) (watch : Watch) (key : SecretKey) : Session Watch :=
  match watch.secrets.lookup key with
  | none => return watch
  | some secret => do
    let (result, health) ← operator.reconcile now watch.health secret
    return schedule { watch with health := health } key (now + nextRound result)

def visitEach (operator : Operator) (now : Nat) (watch : Watch) : List SecretKey → Session Watch
  | [] => return watch
  | key :: keys => do visitEach operator now (← visit operator now watch key) keys

/-- Notices the changes of a second and does what is due. -/
def tick (operator : Operator) (now : Nat) (changes : List SecretChange) (watch : Watch) :
    Session Watch :=
  let watch := changes.foldl (·.notice now) watch
  let (ready, later) := watch.due.partition (·.2 ≤ now)
  visitEach operator now { watch with due := later } (ready.map (·.1))

/-- Lets a number of seconds pass from a time on, and tells the requests with their times. -/
def pass (operator : Operator) (changes : Nat → List SecretChange)
    (serve : σ → Request → Reply × σ) (now : Nat) (watch : Watch) (state : σ) :
    Nat → Watch × List (Nat × Request) × σ
  | 0 => (watch, [], state)
  | seconds + 1 =>
    let (watch, requests, state) := (watch.tick operator now (changes now)).run serve state
    let (watch, later, state) := pass operator changes serve (now + 1) watch state seconds
    (watch, requests.map (now, ·) ++ later, state)

/-- Starts with the secrets that were listed, and lets a number of seconds pass. -/
def run (operator : Operator) (listed : List Secret) (changes : Nat → List SecretChange)
    (serve : σ → Request → Reply × σ) (state : σ) (seconds : Nat) :
    Watch × List (Nat × Request) × σ :=
  let watch : Watch := { health := ({} : HealthState).setReady true }
  let (watch, first, state) :=
    pass operator (fun _ => listed.map .applied) serve 0 watch state 1
  let (watch, later, state) := pass operator changes serve 0 watch state (seconds + 1)
  (watch, first ++ later, state)

end Watch

end WebhookOperator
