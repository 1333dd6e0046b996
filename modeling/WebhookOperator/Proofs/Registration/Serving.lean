import Mathlib.Data.List.TakeWhile
import WebhookOperator.Proofs.Api.Running
import WebhookOperator.Proofs.Codec.Registration
import WebhookOperator.Registration.Store

/-!
# Requests to a store

What a client gets for its requests when a store of registration objects answers them while other
writers come and go.  A request meets the store as the others have left it; a read shows the object
there, and a write either puts an object in its place or is refused and leaves the store alone.

A name goes into the target of a request up to a number sign, and with some characters there is no
target at all.  The store looks at the path alone, so a question mark ends the name there.

* `Api.target?_append`: the target that a path with a name behind it makes
* `Api.pathOf_sent`, `Store.reached_of_isObjectName`: which object it is about
* `SharedStore.run_find?`, `SharedStore.run_create`, `SharedStore.run_replace`: the answers
-/

namespace WebhookOperator

open Api

namespace Api

/-! ### Targets -/

/-- Whether a character may stand in a path and neither ends it nor starts a query. -/
def isPlain (c : Char) : Bool := isPathChar c && c != '#' && c != '?'

theorem pathAndQuery?_append {plain : List Char} (h : plain.all isPlain) (rest : List Char) :
    pathAndQuery? (plain ++ rest) = (pathAndQuery? rest).map (plain ++ ·) := by
  induction plain with
  | nil => simp
  | cons c plain ih =>
    rw [List.all_cons, Bool.and_eq_true] at h
    obtain ⟨hc, hplain⟩ := h
    simp only [isPlain, Bool.and_eq_true, bne_iff_ne, ne_eq] at hc
    obtain ⟨⟨hpath, hnumber⟩, hquestion⟩ := hc
    rw [List.cons_append, pathAndQuery?.eq_4, if_pos hpath, ih hplain, Option.map_map]
    · rfl
    · exact hnumber
    · exact hquestion

theorem target?_append {plain : String} (h : plain.toList.all isPlain) (rest : String) :
    target? (plain ++ rest) = (target? rest).map (plain ++ ·) := by
  rw [target?, String.toList_append, pathAndQuery?_append h, Option.map_map, target?,
    Option.map_map]
  refine congrArg (Option.map · _) (funext fun more => ?_)
  simp [String.ofList_append]

theorem eq_takeWhile_of_query? {text query : List Char} (h : query? text = some query) :
    query = text.takeWhile (· ≠ '#') := by
  induction text generalizing query with
  | nil =>
    rw [query?] at h
    exact (Option.some.inj h).symm
  | cons c rest ih =>
    by_cases hnumber : c = '#'
    · subst hnumber
      rw [query?] at h
      exact (Option.some.inj h).symm
    · rw [query?.eq_3 _ _ hnumber] at h
      split at h
      · obtain ⟨query, hquery, rfl⟩ := Option.map_eq_some_iff.1 h
        rw [List.takeWhile_cons_of_pos (by simpa using hnumber), ← ih hquery]
      · cases h

theorem eq_takeWhile_of_pathAndQuery? {text target : List Char}
    (h : pathAndQuery? text = some target) : target = text.takeWhile (· ≠ '#') := by
  induction text generalizing target with
  | nil =>
    rw [pathAndQuery?] at h
    exact (Option.some.inj h).symm
  | cons c rest ih =>
    by_cases hnumber : c = '#'
    · subst hnumber
      rw [pathAndQuery?] at h
      exact (Option.some.inj h).symm
    · rw [List.takeWhile_cons_of_pos (by simpa using hnumber)]
      by_cases hquestion : c = '?'
      · subst hquestion
        rw [pathAndQuery?] at h
        obtain ⟨query, hquery, rfl⟩ := Option.map_eq_some_iff.1 h
        rw [eq_takeWhile_of_query? hquery]
      · rw [pathAndQuery?.eq_4 _ _ hnumber hquestion] at h
        split at h
        · obtain ⟨target, htarget, rfl⟩ := Option.map_eq_some_iff.1 h
          rw [← ih htarget]
        · cases h

/-- What a path does not start with, it does not start with when it goes on. -/
theorem not_prefix_append {plain path : List Char} (hlength : plain.length ≤ path.length)
    (hdiffer : ¬plain <+: path) (rest : List Char) : ¬plain <+: path ++ rest := by
  intro hstart
  exact hdiffer (List.prefix_of_prefix_length_le hstart (List.prefix_append _ _) hlength)

/-- The target that a name makes is the part of it that a request comes with. -/
theorem eq_sent_of_target? {name target : String} (h : target? name = some target) :
    target = sent name := by
  obtain ⟨text, htext, rfl⟩ := Option.map_eq_some_iff.1 h
  rw [eq_takeWhile_of_pathAndQuery? htext, sent]

/-! ### Paths -/

theorem pathOf_append {plain : String} (h : plain.toList.all isPlain) (rest : String) :
    pathOf (plain ++ rest) = plain ++ pathOf rest := by
  have hplain : ∀ c ∈ plain.toList, decide (c ≠ '#' ∧ c ≠ '?') = true := by
    intro c hc
    have hc := List.all_eq_true.1 h c hc
    simp only [isPlain, Bool.and_eq_true, bne_iff_ne] at hc
    exact decide_eq_true ⟨hc.1.2, hc.2⟩
  rw [pathOf, String.toList_append, List.takeWhile_append_of_pos hplain, String.ofList_append,
    String.ofList_toList, pathOf]

/-- What is not sent is not in the path. -/
theorem pathOf_sent (address : String) : pathOf (sent address) = pathOf address := by
  rw [pathOf, sent, String.toList_ofList, List.takeWhile_takeWhile, pathOf]
  refine congrArg (fun stays => String.ofList (address.toList.takeWhile stays)) (funext fun c => ?_)
  by_cases hnumber : c = '#' <;> simp [hnumber]

end Api

/-! ### The store behind its paths -/

namespace WebhookConfiguration

/-- The path of the objects of a kind. -/
abbrev path (kind : WebhookKind) : String := (resource kind).path

theorem isPlain_path (kind : WebhookKind) : (path kind).toList.all isPlain := by
  cases kind <;> decide +kernel

theorem target?_path (kind : WebhookKind) : target? (path kind) = some (path kind) := by
  have h := target?_append (isPlain_path kind) ""
  have hempty : target? "" = some "" := rfl
  rwa [hempty, Option.map_some, String.append_empty] at h

theorem target?_object (kind : WebhookKind) (name : String) :
    target? (path kind ++ "/" ++ name) = (target? name).map (path kind ++ "/" ++ ·) := by
  have hslash : "/".toList.all isPlain := by decide
  rw [String.append_assoc, target?_append (isPlain_path kind), target?_append hslash,
    Option.map_map]
  exact congrArg (Option.map · _) (funext fun more => (String.append_assoc ..).symm)

/-- A request for an object comes with what is sent of its name. -/
theorem target?_object_of_isSome (kind : WebhookKind) {name : String} (h : (target? name).isSome) :
    target? (path kind ++ "/" ++ name) = some (path kind ++ "/" ++ sent name) := by
  obtain ⟨target, htarget⟩ := Option.isSome_iff_exists.1 h
  rw [target?_object, htarget, Option.map_some, eq_sent_of_target? htarget]

end WebhookConfiguration

namespace Store

open WebhookConfiguration

theorem within?_append (kind : WebhookKind) (rest : String) :
    within? kind (path kind ++ rest) = some rest.toList := by
  simp [within?, String.toList_append]

theorem within?_mutating_append (rest : String) :
    within? .mutating (path .validating ++ rest) = none := by
  have hdiffer : ¬(path .mutating).toList <+: (path .validating).toList := by decide +kernel
  rw [within?, String.toList_append, if_neg]
  intro hstart
  exact not_prefix_append (by decide +kernel) hdiffer rest.toList
    (List.isPrefixOf_iff_prefix.1 hstart)

theorem serve_eq (store : Store) (kind : WebhookKind) (rest : String) {request : Request}
    (h : request.uri = path kind ++ rest) :
    store.serve request = store.serveKind kind request (pathOf rest).toList := by
  rw [serve, h, pathOf_append (isPlain_path kind)]
  cases kind with
  | mutating => rw [within?_append]
  | validating => rw [within?_append, within?_mutating_append]

/-- What is sent of a name says which object a request is about. -/
theorem reached_sent (name : String) : reached (sent name) = reached name := pathOf_sent name

section

variable {name : String} (h : isObjectName name = true)

include h

theorem ne_empty_of_isObjectName : name ≠ "" := by
  rintro rfl
  exact absurd h (by decide)

theorem not_mem_of_isObjectName : ∀ c ∈ name.toList, c ≠ '#' ∧ c ≠ '?' := by
  intro c hc
  rw [isObjectName, Bool.and_eq_true] at h
  have hc := of_decide_eq_true (List.all_eq_true.1 h.2 c hc)
  simp only [List.mem_cons, List.not_mem_nil, or_false, not_or] at hc
  exact ⟨hc.2.2.2, hc.2.2.1⟩

/-- A request about the name of an object comes with the name as it is. -/
theorem sent_of_isObjectName : sent name = name := by
  rw [sent, List.takeWhile_eq_self_iff.2 fun c hc =>
    decide_eq_true (not_mem_of_isObjectName h c hc).1, String.ofList_toList]

/-- It is about this object. -/
theorem reached_of_isObjectName : reached name = name := by
  rw [reached, pathOf, List.takeWhile_eq_self_iff.2 fun c hc =>
    decide_eq_true (not_mem_of_isObjectName h c hc), String.ofList_toList]

end

end Store

/-! ### Requests for an object -/

namespace WebhookConfiguration

variable {kind : WebhookKind}

def reading (kind : WebhookKind) (name : String) : Request where
  method := .get
  uri := path kind ++ "/" ++ name

def creating (object : WebhookConfiguration kind) : Request where
  method := .post
  uri := path kind
  body := some ((codec kind).encode object)

def replacing (name : String) (object : WebhookConfiguration kind) : Request where
  method := .put
  uri := path kind ++ "/" ++ name
  body := some ((codec kind).encode object)

/-- What a read makes of the answer that it gets. -/
def readResult {α : Type} : Except ApiError α → Except ApiError (Option α)
  | .ok value => .ok (some value)
  | .error (.status refusal) =>
    if refusal.reason = "NotFound" then .ok none else .error (.status refusal)
  | .error error => .error error

section Runs

variable {σ : Type} (serve : σ → Request → Reply × σ) (state : σ)

/-- A read asks once. -/
theorem run_find? {name : String} (hname : name ≠ "") (htarget : (target? name).isSome) :
    ((resource kind).find? name).run serve state =
      (readResult (result (codec kind) (serve state (reading kind (sent name))).1),
        [reading kind (sent name)],
        (serve state (reading kind (sent name))).2) := by
  have hsend : (send (codec kind) (reading kind name)).run serve state =
      (result (codec kind) (serve state (reading kind (sent name))).1,
        [reading kind (sent name)],
        (serve state (reading kind (sent name))).2) :=
    run_send serve state (codec kind) (reading kind name) (target?_object_of_isSome kind htarget)
  have hempty : ¬name.isEmpty = true := by simpa using hname
  rw [Resource.find?, if_neg hempty]
  refine (Session.run_bind_of_run hsend _).trans ?_
  generalize serve state (reading kind (sent name)) = answer
  cases result (codec kind) answer.1 with
  | ok value => rfl
  | error error => cases error <;> rfl

theorem run_find?_nameless (kind : WebhookKind) {name : String} (h : name = "") :
    ((resource kind).find? name).run serve state = (.error .namelessRequest, [], state) := by
  have hempty : name.isEmpty = true := by simpa using h
  rw [Resource.find?, if_pos hempty]
  rfl

theorem run_find?_targetless (kind : WebhookKind) {name : String} (hname : name ≠ "")
    (h : target? name = none) :
    ((resource kind).find? name).run serve state = (.error .badTarget, [], state) := by
  have hempty : ¬name.isEmpty = true := by simpa using hname
  have huri : target? (reading kind name).uri = none := by
    rw [reading, target?_object, h, Option.map_none]
  rw [Resource.find?, if_neg hempty]
  exact Session.run_bind_of_run
    (run_send_of_eq_none serve state (codec kind) (reading kind name) huri) _

/-- Where a name makes no request, there is an error at once. -/
theorem run_find?_unsent (kind : WebhookKind) {name : String}
    (h : name = "" ∨ target? name = none) :
    ∃ error, ((resource kind).find? name).run serve state = (.error error, [], state) := by
  by_cases hname : name = ""
  · exact ⟨_, run_find?_nameless serve state kind hname⟩
  · exact ⟨_, run_find?_targetless serve state kind hname (h.resolve_left hname)⟩

theorem run_create (object : WebhookConfiguration kind) :
    ((resource kind).create object).run serve state =
      (result (codec kind) (serve state (creating object)).1, [creating object],
        (serve state (creating object)).2) :=
  run_send serve state (codec kind) (creating object) (target?_path kind)

theorem run_replace {name : String} (hname : name ≠ "") (htarget : (target? name).isSome)
    (object : WebhookConfiguration kind) :
    ((resource kind).replace name object).run serve state =
      (result (codec kind) (serve state (replacing (sent name) object)).1,
        [replacing (sent name) object],
        (serve state (replacing (sent name) object)).2) := by
  have hempty : ¬name.isEmpty = true := by simpa using hname
  rw [Resource.replace, if_neg hempty]
  exact run_send serve state (codec kind) (replacing name object)
    (target?_object_of_isSome kind htarget)

end Runs

end WebhookConfiguration

/-! ### Answers of a store -/

namespace Store

open WebhookConfiguration

variable {kind : WebhookKind} (store : Store)

theorem serve_object (name : String) {request : Request}
    (h : request.uri = path kind ++ "/" ++ name) :
    store.serve request = store.serveKind kind request ('/' :: (reached name).toList) := by
  have hslash : "/".toList.all isPlain := by decide
  rw [String.append_assoc] at h
  rw [store.serve_eq kind ("/" ++ name) h, pathOf_append hslash, String.toList_append]
  rfl

theorem serve_reading (kind : WebhookKind) (name : String) :
    store.serve (reading kind name) = (store.shown kind (reached name), store) := by
  rw [store.serve_object name rfl]
  simp [serveKind, reading]

theorem serve_creating (object : WebhookConfiguration kind) :
    store.serve (creating object) = store.create kind object := by
  have hempty : (pathOf "").toList = [] := rfl
  rw [store.serve_eq kind "" (by simp [creating]), hempty]
  simp [serveKind, creating, (lawful kind).decode_encode]

theorem serve_replacing (name : String) (object : WebhookConfiguration kind) :
    store.serve (replacing name object) = store.replace kind (reached name) object := by
  rw [store.serve_object name rfl]
  simp [serveKind, replacing, (lawful kind).decode_encode]

theorem result_refusal {α : Type} (codec : Codec α) {code : UInt16}
    (hcode : isFailure code.toNat = true) (reason : String) :
    result codec (refusal code reason) =
      .error (.status { status := "Failure", message := "", reason := reason, code := code }) :=
  result_refused codec hcode _

theorem result_shown {store : Store} {name : String} {object : WebhookConfiguration kind}
    (h : store.find? kind name = some object) :
    result (codec kind) (store.shown kind name) = .ok object := by
  rw [shown, h]
  exact result_answered (lawful kind) rfl object

theorem create_cases {object : WebhookConfiguration kind} {name : String}
    (hname : object.metadata.name = some name) :
    (isObjectName name = true ∧ store.find? kind name = none ∧
      result (codec kind) (store.create kind object).1 = .ok (object.versioned store.nextVersion) ∧
      (store.create kind object).2 = store.put kind name object) ∨
    ((isObjectName name = true → store.find? kind name ≠ none) ∧
      (∃ error, result (codec kind) (store.create kind object).1 = .error error) ∧
      (store.create kind object).2 = store) := by
  rw [create, hname]
  dsimp only
  cases isObjectName name with
  | false => exact Or.inr ⟨nofun, ⟨_, result_refusal (codec kind) rfl _⟩, rfl⟩
  | true =>
    cases hfind : store.find? kind name with
    | none =>
      exact Or.inl ⟨rfl, rfl, result_shown (store.find?_put_self kind name object), rfl⟩
    | some live =>
      exact Or.inr ⟨fun _ heq => Option.some_ne_none live heq,
        ⟨_, result_refusal (codec kind) rfl _⟩, rfl⟩

theorem replace_cases {object : WebhookConfiguration kind} {name : String}
    (hname : object.metadata.name = some name) :
    (∃ live, store.find? kind name = some live ∧
      object.metadata.resourceVersion = live.metadata.resourceVersion ∧
      result (codec kind) (store.replace kind name object).1 =
        .ok (object.versioned store.nextVersion) ∧
      (store.replace kind name object).2 = store.put kind name object) ∨
    ((∀ live, store.find? kind name = some live →
        object.metadata.resourceVersion ≠ live.metadata.resourceVersion) ∧
      (∃ error, result (codec kind) (store.replace kind name object).1 = .error error) ∧
      (store.replace kind name object).2 = store) := by
  cases hfind : store.find? kind name with
  | none =>
    have hreplace : store.replace kind name object = (refusal 404 "NotFound", store) := by
      rw [replace, hfind]
    rw [hreplace]
    exact Or.inr ⟨fun _ heq => absurd heq.symm (Option.some_ne_none _),
      ⟨_, result_refusal (codec kind) rfl _⟩, rfl⟩
  | some live =>
    have hreplace : store.replace kind name object =
        if object.metadata.resourceVersion = live.metadata.resourceVersion then
          ((store.put kind name object).shown kind name, store.put kind name object)
        else (refusal 409 "Conflict", store) := by
      rw [replace, hfind]
      exact if_neg (not_not_intro hname)
    rw [hreplace]
    split
    next hversion =>
      exact Or.inl ⟨live, rfl, hversion, result_shown (store.find?_put_self kind name object), rfl⟩
    next hversion =>
      refine Or.inr ⟨fun other heq => ?_, ⟨_, result_refusal (codec kind) rfl _⟩, rfl⟩
      obtain rfl := Option.some.inj heq
      exact hversion

end Store

namespace SharedStore

open WebhookConfiguration

variable {kind : WebhookKind} (shared : SharedStore)

/-- The store that the next request meets. -/
def met : Store := (shared.foreign.headD []).foldl ForeignWrite.on shared.store

/-- What there is after a request that left a store behind. -/
def left (store : Store) : SharedStore where
  store := store
  foreign := shared.foreign.tail
  found := shared.met

/-- What there is after a request that wrote nothing. -/
def passed : SharedStore := shared.left shared.met

theorem serve_eq (request : Request) :
    shared.serve request =
      ((shared.met.serve request).1, shared.left (shared.met.serve request).2) := rfl

/-- **Reading** shows what the store has, and leaves it as it is. -/
theorem run_find? {name : String} (hname : name ≠ "") (htarget : (target? name).isSome) :
    ((resource kind).find? name).run serve shared =
      (.ok (shared.met.find? kind (Store.reached name)), [reading kind (sent name)],
        shared.passed) := by
  rw [WebhookConfiguration.run_find? serve shared hname htarget, serve_eq, Store.serve_reading,
    Store.reached_sent]
  cases hfind : shared.met.find? kind (Store.reached name) with
  | none =>
    rw [Store.shown, hfind]
    dsimp only
    rw [Store.result_refusal (codec kind) rfl "NotFound"]
    rfl
  | some object =>
    rw [Store.result_shown hfind]
    rfl

/-- **Creating** puts an object where there is none, or is refused. -/
theorem run_create {object : WebhookConfiguration kind} {name : String}
    (hname : object.metadata.name = some name) :
    (Store.isObjectName name = true ∧ shared.met.find? kind name = none ∧
      ((resource kind).create object).run serve shared =
        (.ok (object.versioned shared.met.nextVersion), [creating object],
          shared.left (shared.met.put kind name object))) ∨
    ((Store.isObjectName name = true → shared.met.find? kind name ≠ none) ∧
      ∃ error, ((resource kind).create object).run serve shared =
        (.error error, [creating object], shared.passed)) := by
  rw [WebhookConfiguration.run_create serve shared object, serve_eq, Store.serve_creating]
  rcases shared.met.create_cases hname with
    ⟨hreached, hnone, hresult, hstore⟩ | ⟨hnot, ⟨error, hresult⟩, hstore⟩
  · exact Or.inl ⟨hreached, hnone, by rw [hresult, hstore]⟩
  · exact Or.inr ⟨hnot, error, by rw [hresult, hstore, passed]⟩

/-- **Replacing** puts an object in the place of the one that it was made from, or is refused. -/
theorem run_replace {object : WebhookConfiguration kind} {name : String} (hname : name ≠ "")
    (htarget : (target? name).isSome)
    (hobject : object.metadata.name = some (Store.reached name)) :
    (∃ live, shared.met.find? kind (Store.reached name) = some live ∧
      object.metadata.resourceVersion = live.metadata.resourceVersion ∧
      ((resource kind).replace name object).run serve shared =
        (.ok (object.versioned shared.met.nextVersion), [replacing (sent name) object],
          shared.left (shared.met.put kind (Store.reached name) object))) ∨
    ((∀ live, shared.met.find? kind (Store.reached name) = some live →
        object.metadata.resourceVersion ≠ live.metadata.resourceVersion) ∧
      ∃ error, ((resource kind).replace name object).run serve shared =
        (.error error, [replacing (sent name) object], shared.passed)) := by
  rw [WebhookConfiguration.run_replace serve shared hname htarget, serve_eq, Store.serve_replacing,
    Store.reached_sent]
  rcases shared.met.replace_cases hobject with
    ⟨live, hlive, hversion, hresult, hstore⟩ | ⟨hnot, ⟨error, hresult⟩, hstore⟩
  · exact Or.inl ⟨live, hlive, hversion, by rw [hresult, hstore]⟩
  · exact Or.inr ⟨hnot, error, by rw [hresult, hstore, passed]⟩

end SharedStore

end WebhookOperator
