import WebhookOperator.Proofs.Registration.Reconcile

/-!
# Which certificates registrations trust

Every registration object that a round writes trusts the certificates of the secret and no others: a
write either makes the desired object or puts its webhooks in the place of the live ones.  A secret
without certificates is reported, and then no registration object is touched.

A round ends before anything is reported, so nothing hangs on what becomes of a report.

* `Secret.exists_trusts_or_trustsNone`: a secret says which certificates to trust, or has none
* `WebhookConfiguration.asks_upsert`, `asks_reconcileEach`: what may be asked, whatever the answers
* `Applies.run_reconcileEach`, `exists_applies_of_run`: a round is good where all descriptors
  succeed, and counts what they have written
* `ClusterEvent.exists_run_publish`: nothing hangs on the answer to an event
* `Operator.reconcile_trusts`: **registration objects only get the certificates of the secret**
-/

namespace WebhookOperator

open Api

/-! ### The certificates of a secret -/

namespace Secret

def value? (secret : Secret) (key : String) : Option (List UInt8) := secret.data.bind (·.get? key)

/-- The certificates that a secret says to trust: those of its bundle, or else those of the server
itself. -/
def Trusts (secret : Secret) (caBundle : List UInt8) : Prop :=
  caBundle ≠ [] ∧ (secret.value? "ca.crt" = some caBundle ∨
    (∀ value, secret.value? "ca.crt" = some value → value = []) ∧
      secret.value? "tls.crt" = some caBundle)

def TrustsNone (secret : Secret) : Prop :=
  ∀ key ∈ ["ca.crt", "tls.crt"], ∀ value, secret.value? key = some value → value = []

theorem caBundle_eq (secret : Secret) :
    secret.caBundle =
      match ((secret.value? "ca.crt").filter (!·.isEmpty)).or
          ((secret.value? "tls.crt").filter (!·.isEmpty)) with
      | some bundle => .ok bundle
      | none => .error (.missingCaBundle secret.metadata.displayName) := by
  rw [caBundle, value?, value?]
  simp only [List.filterMap_cons, List.filterMap_nil]
  cases secret.data.bind (·.get? "ca.crt") with
  | none =>
    cases secret.data.bind (·.get? "tls.crt") with
    | none => rfl
    | some own => cases own <;> rfl
  | some bundle =>
    cases bundle with
    | cons byte bytes => cases secret.data.bind (·.get? "tls.crt") <;> rfl
    | nil =>
      cases secret.data.bind (·.get? "tls.crt") with
      | none => rfl
      | some own => cases own <;> rfl

theorem caBundle_of_trusts {secret : Secret} {caBundle : List UInt8} (h : secret.Trusts caBundle) :
    secret.caBundle = .ok caBundle := by
  obtain ⟨hnil, hvalue⟩ := h
  have hkept : (some caBundle).filter (!·.isEmpty) = some caBundle := by
    cases caBundle with
    | nil => exact absurd rfl hnil
    | cons byte bytes => rfl
  rw [caBundle_eq]
  rcases hvalue with hbundle | ⟨hempty, hown⟩
  · rw [hbundle, hkept]
    rfl
  · have hnone : (secret.value? "ca.crt").filter (!·.isEmpty) = none := by
      cases hfound : secret.value? "ca.crt" with
      | none => rfl
      | some value =>
        rw [hempty value hfound]
        rfl
    rw [hnone, hown, hkept]
    rfl

theorem caBundle_of_trustsNone {secret : Secret} (h : secret.TrustsNone) :
    secret.caBundle = .error (.missingCaBundle secret.metadata.displayName) := by
  have hnone : ∀ key ∈ ["ca.crt", "tls.crt"], (secret.value? key).filter (!·.isEmpty) = none := by
    intro key hkey
    cases hfound : secret.value? key with
    | none => rfl
    | some value =>
      rw [h key hkey value hfound]
      rfl
  rw [caBundle_eq, hnone "ca.crt" (by decide), hnone "tls.crt" (by decide)]
  rfl

/-- There is something to trust, or there is nothing. -/
theorem exists_trusts_or_trustsNone (secret : Secret) :
    (∃ caBundle, secret.Trusts caBundle) ∨ secret.TrustsNone := by
  by_cases hempty : ∀ value, secret.value? "ca.crt" = some value → value = []
  · by_cases hown : ∀ value, secret.value? "tls.crt" = some value → value = []
    · refine Or.inr fun key hkey => ?_
      rcases List.mem_cons.1 hkey with rfl | hkey
      · exact hempty
      · rw [List.mem_singleton.1 hkey]
        exact hown
    · obtain ⟨own, hown⟩ := Classical.not_forall.1 hown
      obtain ⟨hfound, hnil⟩ := Classical.not_imp.1 hown
      exact Or.inl ⟨own, hnil, Or.inr ⟨hempty, hfound⟩⟩
  · obtain ⟨bundle, hbundle⟩ := Classical.not_forall.1 hempty
    obtain ⟨hfound, hnil⟩ := Classical.not_imp.1 hbundle
    exact Or.inl ⟨bundle, hnil, Or.inl hfound⟩

end Secret

/-! ### What may be written -/

theorem Plan.webhooks_of_written? {kind : WebhookKind} {desired object : WebhookConfiguration kind}
    {live : Option (WebhookConfiguration kind)} (h : (toward desired live).written? = some object) :
    object.webhooks = desired.webhooks := by
  cases live with
  | none =>
    obtain rfl := Option.some.inj h
    rfl
  | some live =>
    rw [toward] at h
    split at h
    · cases h
    · obtain rfl := Option.some.inj h
      rfl

namespace WebhookConfiguration

variable {kind : WebhookKind}

/-- A request for a registration object of a kind stays one when it is sent. -/
theorem exists_of_target?_path {rest uri : String} (h : target? (path kind ++ rest) = some uri) :
    ∃ rest, uri = path kind ++ rest := by
  rw [target?_append (isPlain_path kind)] at h
  obtain ⟨more, _, rfl⟩ := Option.map_eq_some_iff.1 h
  exact ⟨more, rfl⟩

/-- A request for a registration object of a kind that writes nothing but the webhooks. -/
def Writes (webhooks : Option (List (Webhook kind))) (request : Request) : Prop :=
  (∃ rest, request.uri = path kind ++ rest) ∧
    (request.method ≠ .get → ∃ object : WebhookConfiguration kind,
      request.body = some ((codec kind).encode object) ∧ object.webhooks = webhooks)

variable {webhooks : Option (List (Webhook kind))}

theorem asks_find? (name : String) : ((resource kind).find? name).Asks (Writes webhooks) := by
  rw [Resource.find?]
  split
  · exact .done _
  · refine .bind (asks_send _ fun uri huri => ?_) fun result => ?_
    · rw [String.append_assoc] at huri
      exact ⟨exists_of_target?_path huri, fun hget => absurd rfl hget⟩
    · cases result with
      | ok value => exact .done _
      | error error => cases error <;> exact .done _

theorem asks_create {object : WebhookConfiguration kind} (h : object.webhooks = webhooks) :
    ((resource kind).create object).Asks (Writes webhooks) := by
  refine asks_send _ fun uri huri => ?_
  have huri : target? (path kind ++ "") = some uri := by rwa [String.append_empty]
  exact ⟨exists_of_target?_path huri, fun _ => ⟨object, rfl, h⟩⟩

theorem asks_replace (name : String) {object : WebhookConfiguration kind}
    (h : object.webhooks = webhooks) :
    ((resource kind).replace name object).Asks (Writes webhooks) := by
  rw [Resource.replace]
  split
  · exact .done _
  · refine asks_send _ fun uri huri => ?_
    rw [String.append_assoc] at huri
    exact ⟨exists_of_target?_path huri, fun _ => ⟨object, rfl, h⟩⟩

/-- An attempt writes the desired webhooks. -/
theorem asks_attempt (desired : WebhookConfiguration kind) :
    (attempt desired).Asks (Writes desired.webhooks) := by
  refine .bind (asks_find? _) fun result => ?_
  cases result with
  | error error => exact .done _
  | ok live =>
    dsimp only
    have hwritten : ∀ object, (Plan.toward desired live).written? = some object →
        object.webhooks = desired.webhooks := fun object => Plan.webhooks_of_written?
    cases hplan : Plan.toward desired live with
    | unchanged => exact .done _
    | create object =>
      rw [hplan] at hwritten
      exact .bind (asks_create (hwritten object rfl)) fun _ => .done _
    | replace object =>
      rw [hplan] at hwritten
      exact .bind (asks_replace _ (hwritten object rfl)) fun _ => .done _

theorem asks_upsertWithin (desired : WebhookConfiguration kind) (attempts : Nat) :
    (upsertWithin desired attempts).Asks (Writes desired.webhooks) := by
  induction attempts with
  | zero => exact .done _
  | succ attempts ih =>
    refine .bind (asks_attempt desired) fun result => ?_
    cases result with
    | ok applied => exact .done _
    | error error =>
      dsimp only
      split
      · exact ih
      · exact .done _

/-- **What an upsert may write**: the desired webhooks and no others. -/
theorem asks_upsert (desired : WebhookConfiguration kind) :
    desired.upsert.Asks (Writes desired.webhooks) :=
  asks_upsertWithin desired maxAttempts

end WebhookConfiguration

namespace Api.Request

def IsRegistration (request : Request) : Prop :=
  ∃ kind rest, request.uri = WebhookConfiguration.path kind ++ rest

/-- A request with a registration object whose webhook trusts certificates. -/
def Registers (caBundle : List UInt8) (request : Request) : Prop :=
  ∃ (kind : WebhookKind) (rest : String) (object : WebhookConfiguration kind)
    (webhook : Webhook kind), request.uri = WebhookConfiguration.path kind ++ rest ∧
      request.body = some ((WebhookConfiguration.codec kind).encode object) ∧
      object.webhooks = some [webhook] ∧ webhook.clientConfig.caBundle = some caBundle

/-- A request about registration objects that makes none trust other certificates. -/
def Trusting (caBundle : List UInt8) (request : Request) : Prop :=
  request.IsRegistration ∧ (request.method ≠ .get → request.Registers caBundle)

end Api.Request

section

variable (service : ServiceTarget) (caBundle : List UInt8)

theorem Descriptor.asks_reconcile (descriptor : Descriptor) :
    (descriptor.reconcile service caBundle).Asks (Request.Trusting caBundle) := by
  refine (WebhookConfiguration.asks_upsert _).mono fun request hrequest => ?_
  obtain ⟨⟨rest, huri⟩, hwrites⟩ := hrequest
  refine ⟨⟨_, rest, huri⟩, fun hmethod => ?_⟩
  obtain ⟨object, hbody, hwebhooks⟩ := hwrites hmethod
  exact ⟨_, rest, object, descriptor.webhook descriptor.kind service caBundle, huri, hbody,
    hwebhooks, rfl⟩

/-- **What a round may ask**: about registration objects, and it makes none trust other
certificates. -/
theorem asks_reconcileEach (descriptors : List Descriptor) (written : Nat) (metrics : Metrics) :
    (reconcileEach service caBundle written metrics descriptors).Asks
      (Request.Trusting caBundle) := by
  induction descriptors generalizing written metrics with
  | nil => exact .done _
  | cons descriptor rest ih =>
    refine .bind (descriptor.asks_reconcile service caBundle) fun result => ?_
    cases result with
    | error error => exact .done _
    | ok applied => exact ih _ _

/-! ### What a round has written -/

variable {σ : Type} (serve : σ → Request → Reply × σ)

/-- Descriptors succeed one after the other, and this is what is done about their objects. -/
inductive Applies : σ → List Descriptor → List Applied → List Request → σ → Prop
  | nil (state : σ) : Applies state [] [] [] state
  | cons {state middle after : σ} {descriptor : Descriptor} {rest : List Descriptor}
      {applied : Applied} {done : List Applied} {sent more : List Request} :
      (descriptor.reconcile service caBundle).run serve state = (.ok applied, sent, middle) →
      Applies middle rest done more after →
      Applies state (descriptor :: rest) (applied :: done) (sent ++ more) after

variable {service caBundle serve} {state after : σ} {descriptors : List Descriptor}

theorem Applies.run_reconcileEach {done : List Applied} {sent : List Request}
    (h : Applies service caBundle serve state descriptors done sent after) (written : Nat)
    (metrics : Metrics) :
    (reconcileEach service caBundle written metrics descriptors).run serve state =
      ((.ok (written + done.countP (· ≠ .unchanged)), countedRight metrics descriptors), sent,
        after) := by
  induction h generalizing written metrics with
  | nil state => rfl
  | @cons state middle after descriptor rest applied done sent more hrun _ ih =>
    rw [reconcileEach, Session.run_bind_of_run hrun]
    have hcount : (if applied = .unchanged then written else written + 1) +
        done.countP (· ≠ .unchanged) = written + (applied :: done).countP (· ≠ .unchanged) := by
      cases applied <;> simp <;> omega
    dsimp only
    rw [ih, hcount]
    rfl

/-- A round with a number at its end is one in which all descriptors succeed. -/
theorem exists_applies_of_run {written number : Nat} {metrics : Metrics}
    (h : ((reconcileEach service caBundle written metrics descriptors).run serve state).1.1 =
      .ok number) :
    ∃ done sent after, Applies service caBundle serve state descriptors done sent after := by
  induction descriptors generalizing state written metrics with
  | nil => exact ⟨[], [], state, .nil state⟩
  | cons descriptor rest ih =>
    rcases hrun : (descriptor.reconcile service caBundle).run serve state with
      ⟨result, sent, middle⟩
    rw [reconcileEach, Session.run_bind_of_run hrun] at h
    cases result with
    | error error => cases h
    | ok applied =>
      obtain ⟨done, more, after, hdone⟩ := ih h
      exact ⟨applied :: done, sent ++ more, after, .cons hrun hdone⟩

end

/-! ### Events -/

namespace ClusterEvent

/-- The request by which an event is written, where the name of its namespace makes a target. -/
def requests (event : ClusterEvent) : List Request :=
  (target? (resource event.metadata.namespaceName).path).toList.map fun uri =>
    { method := .post, uri := uri, body := some (codec.encode event) }

/-- An event is written and nothing hangs on the answer. -/
theorem exists_run_publish {σ : Type} (event : ClusterEvent) (serve : σ → Request → Reply × σ)
    (state : σ) :
    ∃ after, event.publish.run serve state = ((), event.requests, after) := by
  rw [publish, Resource.create, send, requests]
  dsimp only
  cases target? (resource event.metadata.namespaceName).path with
  | none => exact ⟨state, rfl⟩
  | some uri => exact ⟨_, rfl⟩

/-- Events are not written among the registration objects. -/
theorem not_isRegistration_of_target? {inNamespace : Option String} {request : Request}
    (h : target? (resource inNamespace).path = some request.uri) : ¬request.IsRegistration := by
  have hplain : ("/apis/" ++ apiVersion ++ "/namespaces/").toList.all isPlain := by decide +kernel
  rw [resource, String.append_assoc, target?_append hplain] at h
  obtain ⟨more, _, hmore⟩ := Option.map_eq_some_iff.1 h
  rintro ⟨kind, rest, huri⟩
  have hstart : ("/apis/" ++ apiVersion ++ "/namespaces/").toList <+:
      (WebhookConfiguration.path kind).toList ++ rest.toList :=
    ⟨more.toList, by rw [← String.toList_append, hmore, huri, String.toList_append]⟩
  refine not_prefix_append ?_ ?_ rest.toList hstart
  · cases kind <;> decide +kernel
  · cases kind <;> decide +kernel

theorem not_isRegistration_of_mem_requests {event : ClusterEvent} {request : Request}
    (h : request ∈ event.requests) : ¬request.IsRegistration := by
  obtain ⟨uri, hmem, rfl⟩ := List.mem_map.1 h
  exact not_isRegistration_of_target? (Option.mem_toList.1 hmem)

end ClusterEvent

/-! ### The operator -/

/-- The event by which a reporter tells what it did about a secret and why. -/
def Secret.reported (secret : Secret) (reporter : Reporter) (type : EventType)
    (reason note : String) : ClusterEvent :=
  .report reporter type "ReconcileWebhookConfigurations" reason note secret.reference

theorem Secret.report_eq (secret : Secret) (reporter : Reporter) (type : EventType)
    (reason note : String) :
    secret.report reporter type reason note =
      (secret.reported reporter type reason note).publish := rfl

namespace Operator

variable (operator : Operator) (now : Nat) (health : HealthState) {secret : Secret}
  {caBundle : List UInt8} {σ : Type} (serve : σ → Request → Reply × σ) (state : σ)

def updated (secret : Secret) (written : Nat) : ClusterEvent :=
  secret.reported operator.reporter .normal "WebhookConfigurationsUpdated"
    (toString written ++ " webhook configuration(s) now trust the current CA bundle")

def missing (secret : Secret) : ClusterEvent :=
  secret.reported operator.reporter .warning "MissingCaBundle"
    (RegistrationError.missingCaBundle secret.metadata.displayName).message

theorem exists_run_reconcile_of_trustsNone (h : secret.TrustsNone) :
    ∃ after, (operator.reconcile now health secret).run serve state =
      ((.error (.missingCaBundle secret.metadata.displayName), health),
        (operator.missing secret).requests, after) := by
  obtain ⟨after, hrun⟩ := (operator.missing secret).exists_run_publish serve state
  refine ⟨after, ?_⟩
  rw [reconcile, Secret.caBundle_of_trustsNone h]
  dsimp only
  refine (Session.run_bind_of_run hrun _).trans ?_
  exact congrArg (fun requests => (_, requests, after)) (List.append_nil _)

def tells (secret : Secret) : Except RegistrationError Nat → List Request
  | .ok written => if 0 < written then (operator.updated secret written).requests else []
  | .error _ => []

theorem not_isRegistration_of_mem_tells {operator : Operator}
    {result : Except RegistrationError Nat} {request : Request}
    (h : request ∈ operator.tells secret result) : ¬request.IsRegistration := by
  cases result with
  | error error => exact absurd h List.not_mem_nil
  | ok written =>
    rw [tells] at h
    split at h
    · exact ClusterEvent.not_isRegistration_of_mem_requests h
    · exact absurd h List.not_mem_nil

/-- A round is all that the operator does, but for what it tells at the end. -/
theorem exists_run_reconcile (h : secret.Trusts caBundle)
    {result : Except RegistrationError Nat} {metrics : Metrics} {sent : List Request} {after : σ}
    (hrun : (operator.registry.reconcileAll operator.service caBundle health.metrics).run serve
      state = ((result, metrics), sent, after)) :
    ∃ last, (operator.reconcile now health secret).run serve state =
      ((result.map fun _ => (), { health with
          metrics := metrics
          lastReconcile := if result.isOk then some now else health.lastReconcile }),
        sent ++ operator.tells secret result, last) := by
  rw [reconcile, Secret.caBundle_of_trusts h]
  dsimp only
  rw [Session.run_bind_of_run hrun]
  cases result with
  | error error => exact ⟨after, rfl⟩
  | ok written =>
    rw [tells]
    by_cases hwritten : 0 < written
    · obtain ⟨last, hpublish⟩ := (operator.updated secret written).exists_run_publish serve after
      simp only [if_pos hwritten]
      rw [Secret.report_eq, ← updated, Session.run_bind_of_run hpublish]
      exact ⟨last, congrArg (fun requests => (_, sent ++ requests, last)) (List.append_nil _)⟩
    · simp only [if_neg hwritten]
      exact ⟨after, rfl⟩

/-- The result and the requests are the same where requests for registration objects are answered
alike. -/
theorem run_reconcile_congr (secret : Secret) {serve' : σ → Request → Reply × σ}
    (hsame : ∀ state request, request.IsRegistration → serve' state request = serve state request) :
    let run := (operator.reconcile now health secret).run serve state
    let run' := (operator.reconcile now health secret).run serve' state
    run'.1 = run.1 ∧ run'.2.1 = run.2.1 := by
  rcases secret.exists_trusts_or_trustsNone with ⟨caBundle, h⟩ | h
  · rcases hround : (operator.registry.reconcileAll operator.service caBundle health.metrics).run
      serve state with ⟨⟨result, metrics⟩, sent, after⟩
    have hround' : (operator.registry.reconcileAll operator.service caBundle health.metrics).run
        serve' state = ((result, metrics), sent, after) := by
      rw [← hround]
      refine (asks_reconcileEach operator.service caBundle _ 0 health.metrics).run_congr ?_ state
      exact fun state request hrequest => hsame state request hrequest.1
    obtain ⟨last, hrun⟩ := exists_run_reconcile operator now health serve state h hround
    obtain ⟨last', hrun'⟩ := exists_run_reconcile operator now health serve' state h hround'
    rw [hrun, hrun']
    exact ⟨rfl, rfl⟩
  · obtain ⟨last, hrun⟩ := exists_run_reconcile_of_trustsNone operator now health serve state h
    obtain ⟨last', hrun'⟩ := exists_run_reconcile_of_trustsNone operator now health serve' state h
    rw [hrun, hrun']
    exact ⟨rfl, rfl⟩

/-- What the operator does with certificates to trust: a round, and what it tells at the end. -/
theorem exists_round (h : secret.Trusts caBundle) :
    ∃ result metrics sent after last,
      (operator.registry.reconcileAll operator.service caBundle health.metrics).run serve state =
        ((result, metrics), sent, after) ∧
      (∀ request ∈ sent, request.Trusting caBundle) ∧
      (operator.reconcile now health secret).run serve state =
        ((result.map fun _ => (), { health with
            metrics := metrics
            lastReconcile := if result.isOk then some now else health.lastReconcile }),
          sent ++ operator.tells secret result, last) := by
  rcases hround : (operator.registry.reconcileAll operator.service caBundle health.metrics).run
    serve state with ⟨⟨result, metrics⟩, sent, after⟩
  have hasks := (asks_reconcileEach operator.service caBundle operator.registry.descriptors 0
    health.metrics).of_mem_run serve state
  rw [← Registry.reconcileAll, hround] at hasks
  obtain ⟨last, hrun⟩ := exists_run_reconcile operator now health serve state h hround
  exact ⟨result, metrics, sent, after, last, rfl, hasks, hrun⟩

/-- No registration object is made to trust anything else. -/
theorem registers_of_mem_run_reconcile (h : secret.Trusts caBundle) {request : Request}
    (hmem : request ∈ ((operator.reconcile now health secret).run serve state).2.1)
    (hregistration : request.IsRegistration) (hmethod : request.method ≠ .get) :
    request.Registers caBundle := by
  obtain ⟨result, metrics, sent, after, last, -, hsent, hrun⟩ :=
    exists_round operator now health serve state h
  rw [hrun] at hmem
  rcases List.mem_append.1 hmem with hmem | hmem
  · exact (hsent request hmem).2 hmethod
  · exact absurd hregistration (not_isRegistration_of_mem_tells hmem)

/-- All descriptors succeed and the users are told about what was written, or one fails and they are
told nothing. -/
theorem run_reconcile_cases (h : secret.Trusts caBundle) :
    let run := (operator.reconcile now health secret).run serve state
    (∃ done sent after,
        Applies operator.service caBundle serve state operator.registry.descriptors done sent
          after ∧
        run.1.1 = .ok () ∧ (∀ request ∈ sent, request.IsRegistration) ∧
        run.2.1 = sent ++ operator.tells secret (.ok (done.countP (· ≠ .unchanged)))) ∨
      (¬∃ done sent after,
        Applies operator.service caBundle serve state operator.registry.descriptors done sent
          after) ∧
        (∃ error, run.1.1 = .error error) ∧ ∀ request ∈ run.2.1, request.IsRegistration := by
  obtain ⟨result, metrics, sent, after, last, hround, hsent, hrun⟩ :=
    exists_round operator now health serve state h
  rw [hrun]
  cases result with
  | ok written =>
    obtain ⟨done, requests, middle, hdone⟩ := exists_applies_of_run (congrArg (·.1.1) hround)
    have hcounted := hround.symm.trans (hdone.run_reconcileEach 0 health.metrics)
    rw [Nat.zero_add] at hcounted
    cases hcounted
    refine Or.inl ⟨done, sent, after, hdone, rfl, fun request hmem => ?_, rfl⟩
    exact (hsent request hmem).1
  | error error =>
    refine Or.inr ⟨?_, ⟨error, rfl⟩, fun request hmem => ?_⟩
    · rintro ⟨done, requests, middle, hdone⟩
      cases hround.symm.trans (hdone.run_reconcileEach 0 health.metrics)
    · rw [tells, List.append_nil] at hmem
      exact (hsent request hmem).1

/-- The time is set by a good result and by no other. -/
theorem lastReconcile_run_reconcile (secret : Secret) :
    let run := (operator.reconcile now health secret).run serve state
    run.1.2.lastReconcile = if run.1.1.isOk then some now else health.lastReconcile := by
  rcases secret.exists_trusts_or_trustsNone with ⟨caBundle, h⟩ | h
  · obtain ⟨result, metrics, sent, after, last, -, -, hrun⟩ :=
      exists_round operator now health serve state h
    rw [hrun]
    cases result with
    | ok written => rfl
    | error error => rfl
  · obtain ⟨last, hrun⟩ := exists_run_reconcile_of_trustsNone operator now health serve state h
    rw [hrun]
    rfl

/-- **Registration objects only get the certificates of the secret.**  Whatever the answers are,
each write of a registration object makes its webhook trust the certificates of the secret; where it
has none, this is the result and no registration object is touched.  The result is good exactly when
all descriptors succeed, and then the users are told if an object was written.  The time of the last
success is set in no other case, and nothing hangs on the answers to what is told. -/
theorem reconcile_trusts (operator : Operator) (now : Nat) (health : HealthState) (secret : Secret)
    {σ : Type} (serve : σ → Request → Reply × σ) (state : σ) :
    let run := (operator.reconcile now health secret).run serve state
    (∀ caBundle, secret.Trusts caBundle →
      (∀ request ∈ run.2.1, request.IsRegistration → request.method ≠ .get →
        request.Registers caBundle) ∧
      ((∃ done sent after,
          Applies operator.service caBundle serve state operator.registry.descriptors done sent
            after ∧
          run.1.1 = .ok () ∧ (∀ request ∈ sent, request.IsRegistration) ∧
          run.2.1 = sent ++ if 0 < done.countP (· ≠ .unchanged) then
            (operator.updated secret (done.countP (· ≠ .unchanged))).requests else []) ∨
        (¬∃ done sent after,
          Applies operator.service caBundle serve state operator.registry.descriptors done sent
            after) ∧
          (∃ error, run.1.1 = .error error) ∧ ∀ request ∈ run.2.1, request.IsRegistration)) ∧
    (secret.TrustsNone →
      run.1.1 = .error (.missingCaBundle secret.metadata.displayName) ∧
        run.2.1 = (operator.missing secret).requests ∧
        ∀ request ∈ run.2.1, ¬request.IsRegistration) ∧
    (run.1.2.lastReconcile = if run.1.1.isOk then some now else health.lastReconcile) ∧
    ∀ serve' : σ → Request → Reply × σ,
      (∀ state request, request.IsRegistration → serve' state request = serve state request) →
      let run' := (operator.reconcile now health secret).run serve' state
      run'.1 = run.1 ∧ run'.2.1 = run.2.1 := by
  intro run
  refine ⟨?_, ?_, ?_, ?_⟩
  · intro caBundle h
    constructor
    · intro request hmem hregistration hmethod
      exact registers_of_mem_run_reconcile operator now health serve state h hmem hregistration
        hmethod
    · exact run_reconcile_cases operator now health serve state h
  · intro h
    obtain ⟨last, hrun⟩ := exists_run_reconcile_of_trustsNone operator now health serve state h
    have hrun : run = _ := hrun
    rw [hrun]
    exact ⟨rfl, rfl, fun _ => ClusterEvent.not_isRegistration_of_mem_requests⟩
  · exact lastReconcile_run_reconcile operator now health serve state secret
  · intro serve' hsame
    exact run_reconcile_congr operator now health serve state secret hsame

end Operator

def Operator.sample : Operator where
  registry := ⟨[Descriptor.podPreset, Descriptor.namespaceMapping]⟩
  service := ⟨"ibm-common-services", "webhook", 443⟩
  reporter := { controller := operatorName, suffix := "1" }

/-- A secret with a bundle and with the certificate of the server itself. -/
def Secret.holding (bundle own : List UInt8) : Secret where
  data := some (.ofList [("ca.crt", bundle), ("tls.crt", own)])
  metadata := { name := some "webhook-cert" }
  stringData := none

/-- A store that breaks the connection when it gets an event. -/
def Store.serveDeaf (store : Store) (request : Request) : Reply × Store :=
  if request.uri = (ClusterEvent.resource none).path then (.failed "closed", store)
  else store.serve request

theorem Store.serveDeaf_of_isRegistration (store : Store) {request : Request}
    (h : request.IsRegistration) : store.serveDeaf request = store.serve request := by
  refine if_neg fun huri => ?_
  have htarget : target? (ClusterEvent.resource none).path = some request.uri := by
    rw [huri]
    decide +kernel
  exact ClusterEvent.not_isRegistration_of_target? htarget h

/-- With an empty bundle the certificate of the server is trusted, whether or not the event about it
is taken; where this is empty too, nothing is done. -/
theorem Operator.reconcile_trusts_sample :
    let run := (sample.reconcile 7 {} (.holding [] [1])).run Store.serve {}
    let missing := (sample.reconcile 7 {} (.holding [] [])).run Store.serve {}
    run.1.1 = .ok () ∧ run.1.2.lastReconcile = some 7 ∧
      (∀ request ∈ run.2.1, request.IsRegistration → request.method ≠ .get →
        request.Registers [1]) ∧
      ((sample.reconcile 7 {} (.holding [] [1])).run Store.serveDeaf {}).1 = run.1 ∧
      missing.1.1 = .error (.missingCaBundle "webhook-cert") ∧
      ∀ request ∈ missing.2.1, ¬request.IsRegistration := by
  have htrusted : (Secret.holding [] [1]).Trusts [1] := by
    refine ⟨by decide, Or.inr ⟨fun value hvalue => ?_, by decide⟩⟩
    exact (Option.some.inj hvalue).symm
  have hnone : (Secret.holding [] []).TrustsNone := by
    refine List.forall_mem_cons.2 ⟨fun value hvalue => ?_,
      List.forall_mem_singleton.2 fun value hvalue => ?_⟩
    · exact (Option.some.inj hvalue).symm
    · exact (Option.some.inj hvalue).symm
  have hnamed : ∀ descriptor ∈ sample.registry.descriptors, descriptor.IsNamed := by
    decide +kernel
  have hnodup : (sample.registry.descriptors.map (·.name)).Nodup := by decide
  obtain ⟨counted, requests, after, hround, -⟩ :=
    run_reconcileEach sample.service [1] hnamed hnodup 0 {} Store.consistent_empty
  obtain ⟨last, hrun⟩ := exists_run_reconcile sample 7 {} Store.serve {} htrusted hround
  obtain ⟨htrusts, -, -, hsame⟩ :=
    reconcile_trusts sample 7 {} (.holding [] [1]) Store.serve {}
  obtain ⟨-, hmissing, -⟩ := reconcile_trusts sample 7 {} (.holding [] []) Store.serve {}
  refine ⟨?_, ?_, (htrusts [1] htrusted).1,
    (hsame Store.serveDeaf fun store _ h => store.serveDeaf_of_isRegistration h).1,
    (hmissing hnone).1, (hmissing hnone).2.2⟩
  · rw [hrun]
    rfl
  · rw [hrun]
    rfl

end WebhookOperator
