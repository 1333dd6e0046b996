import WebhookOperator.Proofs.Registration.Convergence
import WebhookOperator.Proofs.Registration.Serving

/-!
# Attempts after one another

Whatever the cluster answers, an upsert is a few attempts after one another.  Each of them reads the
object anew and writes at most once, and what it replaces is made from what it has read itself.  So
nothing that was read before a conflict is ever written after it.

Two things are told apart.  `Attempts` says where the attempts start, each of them from where the
one before it has left the cluster, but not how many there are.  `Tried` says how long it goes on and
what comes of it, and looks at nothing but the results.

* `Attempt.exists_goes`: how an attempt goes, told by the answers of the cluster alone
* `Tried.followed_iff`, `Tried.ended`: which attempts are followed by another, and how it ends
* `WebhookConfiguration.exists_attempts`: the attempts of an upsert
* `Descriptor.upsert_retries_exactly`: **all that an upsert does, whatever the answers are**
-/

namespace WebhookOperator

open Api WebhookConfiguration

theorem ApiError.isConflict_iff {error : ApiError} :
    error.isConflict = true ↔ ∃ answer, error = .status answer ∧ answer.code = 409 := by
  cases error <;> simp [isConflict, code?]

/-- What there is to tell about an attempt: what it has read, the requests by which it has read and
those by which it has written, and its result. -/
structure Attempt (kind : WebhookKind) where
  read : Except ApiError (Option (WebhookConfiguration kind))
  asked : List Request
  written : List Request
  result : Except ApiError Applied

namespace Attempt

variable {kind : WebhookKind} {σ : Type}

def requests (attempt : Attempt kind) : List Request := attempt.asked ++ attempt.written

/-- The cluster has said, at whatever point, that another writer was faster. -/
def InConflict (attempt : Attempt kind) : Prop :=
  ∃ answer, attempt.result = .error (.status answer) ∧ answer.code = 409

/-- The cluster answers a read of the object of the name with a result, and goes on from there. -/
structure Answers (serve : σ → Request → Reply × σ) (desired : WebhookConfiguration kind)
    (before : σ) (read : Except ApiError (Option (WebhookConfiguration kind))) (after : σ) :
    Prop where
  named : desired.metadata.displayName ≠ ""
  sendable : (target? desired.metadata.displayName).isSome
  answer : ∃ reply, serve before (reading kind (sent desired.metadata.displayName)) = (reply, after) ∧
    readResult (Api.result (codec kind) reply) = read

/-- How an attempt goes, from what the cluster is before it to what it is after it.  Everything that
is told comes from the name, from what is desired and from what the cluster answers: the attempt asks
for the object of the name, then it writes what it found missing, and its result is what the answer
to its last request says. -/
inductive Goes (serve : σ → Request → Reply × σ) (desired : WebhookConfiguration kind)
    (before : σ) : Attempt kind → σ → Prop
  | nameless : desired.metadata.displayName = "" →
      Goes serve desired before ⟨.error .namelessRequest, [], [], .error .namelessRequest⟩ before
  /-- With some characters in it the name makes no request. -/
  | targetless : desired.metadata.displayName ≠ "" → target? desired.metadata.displayName = none →
      Goes serve desired before ⟨.error .badTarget, [], [], .error .badTarget⟩ before
  | unread {after : σ} {error : ApiError} :
      Answers serve desired before (.error error) after →
      Goes serve desired before
        ⟨.error error, [reading kind (sent desired.metadata.displayName)], [], .error error⟩ after
  | converged {after : σ} {live : WebhookConfiguration kind} :
      Answers serve desired before (.ok (some live)) after → live.isConverged desired = true →
      Goes serve desired before
        ⟨.ok (some live), [reading kind (sent desired.metadata.displayName)], [], .ok .unchanged⟩
        after
  | created {middle after : σ} {answer : Reply} :
      Answers serve desired before (.ok none) middle →
      serve middle (creating desired) = (answer, after) →
      Goes serve desired before
        ⟨.ok none, [reading kind (sent desired.metadata.displayName)], [creating desired],
          (Api.result (codec kind) answer).map fun _ => .created⟩
        after
  /-- The object that it writes is the one that it has read, with what is desired put in. -/
  | replaced {middle after : σ} {answer : Reply} {live object : WebhookConfiguration kind} :
      Answers serve desired before (.ok (some live)) middle → live.isConverged desired = false →
      object.webhooks = desired.webhooks →
      (∀ key, object.metadata.labelDict.get? key =
        (desired.metadata.labelDict.get? key).or (live.metadata.labelDict.get? key)) →
      object.metadata = { live.metadata with labels := object.metadata.labels } →
      serve middle (replacing (sent desired.metadata.displayName) object) = (answer, after) →
      Goes serve desired before
        ⟨.ok (some live), [reading kind (sent desired.metadata.displayName)],
          [replacing (sent desired.metadata.displayName) object],
          (Api.result (codec kind) answer).map fun _ => .updated⟩
        after

end Attempt

/-! ### One attempt -/

namespace Attempt

variable {kind : WebhookKind} {σ : Type} {serve : σ → Request → Reply × σ}
  {desired : WebhookConfiguration kind} {before after : σ}

theorem Answers.run_find? {read : Except ApiError (Option (WebhookConfiguration kind))}
    (h : Answers serve desired before read after) :
    ((resource kind).find? desired.metadata.displayName).run serve before =
      (read, [reading kind (sent desired.metadata.displayName)], after) := by
  obtain ⟨hname, htarget, reply, hreply, hread⟩ := h
  rw [WebhookConfiguration.run_find? serve before hname htarget, hreply, hread]

theorem exists_answers (serve : σ → Request → Reply × σ) (before : σ)
    (hname : desired.metadata.displayName ≠ "")
    (htarget : (target? desired.metadata.displayName).isSome) :
    ∃ read after, Answers serve desired before read after :=
  ⟨_, _, hname, htarget, _, rfl, rfl⟩

/-- **Every attempt goes in one of these ways.** -/
theorem exists_goes (serve : σ → Request → Reply × σ) (desired : WebhookConfiguration kind)
    (before : σ) :
    ∃ attempt after, Goes serve desired before attempt after ∧
      (WebhookConfiguration.attempt desired).run serve before =
        (attempt.result, attempt.requests, after) := by
  rw [WebhookConfiguration.attempt]
  by_cases hname : desired.metadata.displayName = ""
  · have hread := run_find?_nameless serve before kind hname
    exact ⟨_, before, .nameless hname, Session.run_bind_of_run hread _⟩
  by_cases htarget : target? desired.metadata.displayName = none
  · have hread := run_find?_targetless serve before kind hname htarget
    exact ⟨_, before, .targetless hname htarget, Session.run_bind_of_run hread _⟩
  have hsent := Option.isSome_iff_ne_none.2 htarget
  obtain ⟨read, middle, hread⟩ := exists_answers serve before hname hsent
  rw [Session.run_bind_of_run hread.run_find?]
  match read, hread with
  | .error error, hread => exact ⟨_, middle, .unread hread, rfl⟩
  | .ok none, hread =>
    have hcreate := run_create serve middle desired
    refine ⟨_, _, .created hread rfl, ?_⟩
    dsimp only [Plan.toward]
    rw [Session.run_bind_of_run hcreate]
    rfl
  | .ok (some live), hread =>
    cases hconverged : live.isConverged desired with
    | true =>
      refine ⟨_, middle, .converged hread hconverged, ?_⟩
      dsimp only
      rw [Plan.toward_of_isConverged hconverged]
      rfl
    | false =>
      have hreplace := run_replace serve middle hname hsent (live.adopt desired)
      have hwebhooks : (live.adopt desired).webhooks = desired.webhooks := rfl
      refine ⟨_, _, .replaced hread hconverged hwebhooks (live.label_adopt desired) rfl rfl, ?_⟩
      dsimp only
      rw [Plan.toward_of_not_isConverged hconverged]
      dsimp only
      rw [Session.run_bind_of_run hreplace]
      rfl

end Attempt

/-! ### Attempts after one another -/

/-- Attempts each of which starts from what the one before it has left of the cluster. -/
inductive Attempts {kind : WebhookKind} {σ : Type} (serve : σ → Request → Reply × σ)
    (desired : WebhookConfiguration kind) : σ → List (Attempt kind) → σ → Prop
  | nil (state : σ) : Attempts serve desired state [] state
  | cons {before middle after : σ} {attempt : Attempt kind} {attempts : List (Attempt kind)} :
      attempt.Goes serve desired before middle → Attempts serve desired middle attempts after →
      Attempts serve desired before (attempt :: attempts) after

/-- How up to a number of attempts end when each that ends in a conflict is made again. -/
inductive Tried {kind : WebhookKind} (name : String) :
    Nat → List (Attempt kind) → Except RegistrationError Applied → Prop
  | exhausted : Tried name 0 []
      (.error (.conflictRetriesExhausted kind.objectKind name WebhookConfiguration.maxAttempts))
  | settled {number : Nat} {attempt : Attempt kind} : ¬attempt.InConflict →
      Tried name (number + 1) [attempt] (attempt.result.mapError .api)
  | again {number : Nat} {attempt : Attempt kind} {attempts : List (Attempt kind)}
      {result : Except RegistrationError Applied} : attempt.InConflict →
      Tried name number attempts result → Tried name (number + 1) (attempt :: attempts) result

namespace Tried

variable {kind : WebhookKind} {name : String} {number : Nat} {attempts : List (Attempt kind)}
  {result : Except RegistrationError Applied}

theorem length_le (h : Tried name number attempts result) : attempts.length ≤ number := by
  induction h with
  | exhausted => exact Nat.le_refl 0
  | settled => exact Nat.succ_le_succ (Nat.zero_le _)
  | again _ _ ih => exact Nat.succ_le_succ ih

theorem length_pos_iff (h : Tried name number attempts result) :
    0 < attempts.length ↔ 0 < number := by
  cases h with
  | exhausted => rfl
  | settled => exact iff_of_true Nat.one_pos (Nat.succ_pos _)
  | again => exact iff_of_true (Nat.succ_pos _) (Nat.succ_pos _)

/-- An attempt is followed by another exactly if it ends in a conflict and is not the last one that
may be made. -/
theorem followed_iff (h : Tried name number attempts result) {place : Nat} {attempt : Attempt kind}
    (hplace : attempts[place]? = some attempt) :
    place + 1 < attempts.length ↔ attempt.InConflict ∧ place + 1 < number := by
  induction h generalizing place with
  | exhausted => cases hplace
  | @settled number only hsettled =>
    obtain ⟨rfl, rfl⟩ : place = 0 ∧ only = attempt := by
      simpa [List.getElem?_singleton] using hplace
    exact iff_of_false (Nat.lt_irrefl 1) fun hconflict => hsettled hconflict.1
  | @again number first attempts result hconflict htried ih =>
    rw [List.length_cons, Nat.add_lt_add_iff_right, Nat.add_lt_add_iff_right]
    cases place with
    | zero =>
      obtain rfl : first = attempt := Option.some.inj hplace
      rw [htried.length_pos_iff]
      exact (and_iff_right hconflict).symm
    | succ place => exact ih hplace

/-- Either every attempt that may be made ends in a conflict, or the last one that is made ends
otherwise and its result counts. -/
theorem ended (h : Tried name number attempts result) :
    (attempts.length = number ∧ (∀ attempt ∈ attempts, attempt.InConflict) ∧
      result = .error
        (.conflictRetriesExhausted kind.objectKind name WebhookConfiguration.maxAttempts)) ∨
    ∃ last, attempts.getLast? = some last ∧ ¬last.InConflict ∧
      result = last.result.mapError .api := by
  induction h with
  | exhausted => exact Or.inl ⟨rfl, fun _ hmem => absurd hmem List.not_mem_nil, rfl⟩
  | @settled number attempt hsettled => exact Or.inr ⟨attempt, rfl, hsettled, rfl⟩
  | @again number attempt attempts result hconflict htried ih =>
    rcases ih with ⟨hlength, hall, hresult⟩ | ⟨last, hlast, hsettled, hresult⟩
    · exact Or.inl ⟨congrArg (· + 1) hlength, List.forall_mem_cons.2 ⟨hconflict, hall⟩, hresult⟩
    · refine Or.inr ⟨last, ?_, hsettled, hresult⟩
      rw [List.getLast?_cons, hlast]
      rfl

theorem exhausted_iff (h : Tried name number attempts result) :
    result = .error
        (.conflictRetriesExhausted kind.objectKind name WebhookConfiguration.maxAttempts) ↔
      attempts.length = number ∧ ∀ attempt ∈ attempts, attempt.InConflict := by
  rcases h.ended with ⟨hlength, hall, hresult⟩ | ⟨last, hlast, hsettled, hresult⟩
  · exact iff_of_true hresult ⟨hlength, hall⟩
  · refine iff_of_false ?_ fun hall => hsettled (hall.2 last (List.mem_of_getLast? hlast))
    rw [hresult]
    cases last.result with
    | ok applied => exact nofun
    | error error => exact nofun

end Tried

/-! ### The attempts of an upsert -/

namespace WebhookConfiguration

variable {kind : WebhookKind} {σ : Type} {serve : σ → Request → Reply × σ}
  {desired : WebhookConfiguration kind} {before after : σ} {attempt : Attempt kind}

theorem run_upsertWithin_of_inConflict
    (h : (WebhookConfiguration.attempt desired).run serve before =
      (attempt.result, attempt.requests, after))
    (hconflict : attempt.InConflict) (number : Nat) :
    (upsertWithin desired (number + 1)).run serve before =
      (((upsertWithin desired number).run serve after).1,
        attempt.requests ++ ((upsertWithin desired number).run serve after).2.1,
        ((upsertWithin desired number).run serve after).2.2) := by
  obtain ⟨answer, hresult, hcode⟩ := hconflict
  have hagain : (ApiError.status answer).isConflict = true :=
    ApiError.isConflict_iff.2 ⟨answer, rfl, hcode⟩
  rw [upsertWithin, Session.run_bind_of_run h, hresult]
  dsimp only
  rw [if_pos hagain]

theorem run_upsertWithin_of_not_inConflict
    (h : (WebhookConfiguration.attempt desired).run serve before =
      (attempt.result, attempt.requests, after))
    (hsettled : ¬attempt.InConflict) (number : Nat) :
    (upsertWithin desired (number + 1)).run serve before =
      (attempt.result.mapError .api, attempt.requests, after) := by
  rw [upsertWithin, Session.run_bind_of_run h]
  cases hresult : attempt.result with
  | ok applied => exact congrArg (_, ·, after) (List.append_nil _)
  | error error =>
    have hover : ¬error.isConflict = true := by
      intro hagain
      obtain ⟨answer, rfl, hcode⟩ := ApiError.isConflict_iff.1 hagain
      exact hsettled ⟨answer, hresult, hcode⟩
    dsimp only
    rw [if_neg hover]
    exact congrArg (_, ·, after) (List.append_nil _)

/-- **Up to a number of attempts.**  Each starts from what the one before it has left, and each that
ends in a conflict is made again. -/
theorem exists_attempts (serve : σ → Request → Reply × σ) (desired : WebhookConfiguration kind)
    (number : Nat) (before : σ) :
    let run := (upsertWithin desired number).run serve before
    ∃ attempts, Attempts serve desired before attempts run.2.2 ∧
      Tried desired.metadata.displayName number attempts run.1 ∧
      run.2.1 = attempts.flatMap Attempt.requests := by
  induction number generalizing before with
  | zero => exact ⟨[], .nil before, .exhausted, rfl⟩
  | succ number ih =>
    obtain ⟨attempt, after, hgoes, hrun⟩ := Attempt.exists_goes serve desired before
    by_cases hconflict : attempt.InConflict
    · obtain ⟨attempts, hattempts, htried, hrequests⟩ := ih after
      rw [run_upsertWithin_of_inConflict hrun hconflict]
      refine ⟨attempt :: attempts, .cons hgoes hattempts, .again hconflict htried, ?_⟩
      rw [hrequests, List.flatMap_cons]
    · rw [run_upsertWithin_of_not_inConflict hrun hconflict]
      refine ⟨[attempt], .cons hgoes (.nil after), .settled hconflict, ?_⟩
      exact (List.flatMap_singleton ..).symm

end WebhookConfiguration

/-- **All that an upsert does, whatever the answers are.**  It makes one to five attempts, each from
where the one before it has left the cluster.  Each of them reads the object and then writes what it
found missing, what it puts in the place of an object is made from the one that it has read itself,
and its result is what the answer to its last request says (`Attempt.Goes`).  An attempt is followed
by another exactly if it ends in a conflict and fewer than five have been made.  The upsert gives up
exactly if five attempts end in a conflict, and otherwise its result is that of the last attempt. -/
theorem Descriptor.upsert_retries_exactly {σ : Type} (serve : σ → Request → Reply × σ) (before : σ)
    (kind : WebhookKind) (descriptor : Descriptor) (service : ServiceTarget)
    (caBundle : List UInt8) :
    let desired := descriptor.desired kind service caBundle
    let run := desired.upsert.run serve before
    let givenUp : Except RegistrationError Applied :=
      .error (.conflictRetriesExhausted kind.objectKind descriptor.name 5)
    ∃ attempts : List (Attempt kind), Attempts serve desired before attempts run.2.2 ∧
      run.2.1 = attempts.flatMap Attempt.requests ∧
      0 < attempts.length ∧ attempts.length ≤ 5 ∧
      (∀ place attempt, attempts[place]? = some attempt →
        (place + 1 < attempts.length ↔ attempt.InConflict ∧ place + 1 < 5)) ∧
      (run.1 = givenUp ↔ attempts.length = 5 ∧ ∀ attempt ∈ attempts, attempt.InConflict) ∧
      (run.1 ≠ givenUp →
        ∃ last, attempts.getLast? = some last ∧ run.1 = last.result.mapError .api) := by
  intro desired run givenUp
  obtain ⟨attempts, hattempts, htried, hrequests⟩ :=
    exists_attempts serve desired maxAttempts before
  refine ⟨attempts, hattempts, hrequests, htried.length_pos_iff.2 (Nat.succ_pos 4),
    htried.length_le, fun _ _ => htried.followed_iff, htried.exhausted_iff, fun hresult => ?_⟩
  rcases htried.ended with ⟨-, -, hgivenUp⟩ | ⟨last, hlast, -, hlastResult⟩
  · exact absurd hgivenUp hresult
  · exact ⟨last, hlast, hlastResult⟩

/-- A cluster that always says that another writer was faster is asked five times for the object. -/
example :
    let desired := Descriptor.podPreset.desired .mutating ⟨"ibm-common-services", "webhook", 443⟩ [1]
    let conflict : Reply := .answered 409 ⟨"", none⟩
    (desired.upsert.run (fun (asked : Nat) _ => (conflict, asked + 1)) 0).2.1 =
      List.replicate 5 (reading .mutating Descriptor.podPreset.name) := by
  decide +kernel

/-- Where the object is missing and another writer is always faster to create one, it is read anew
before each of the five attempts to create it. -/
example :
    let desired : WebhookConfiguration .mutating :=
      { metadata := { name := some "presets" }, webhooks := none }
    let answers := (List.replicate 5
      [Store.refusal 404 "NotFound", Store.refusal 409 "AlreadyExists"]).flatten
    let run := desired.upsert.run (Session.script (.failed "no more answers")) answers
    run.2.1 = (List.replicate 5 [reading .mutating "presets", creating desired]).flatten ∧
      run.1 = .error (.conflictRetriesExhausted "MutatingWebhookConfiguration" "presets" 5) := by
  decide +kernel

/-- After a conflict on a replacement the next one has the version that was read after it. -/
example :
    let desired : WebhookConfiguration .mutating :=
      { metadata := { name := some "presets" }, webhooks := some [] }
    let live (version : String) : WebhookConfiguration .mutating :=
      { metadata := { name := some "presets", resourceVersion := some version }
        webhooks := none }
    let shown (object : WebhookConfiguration .mutating) : Reply :=
      .answered 200 (.ofJson ((codec .mutating).encode object))
    let answers := [shown (live "1"), Store.refusal 409 "Conflict", shown (live "2"),
      shown (desired.versioned "3")]
    let run := desired.upsert.run (Session.script (.failed "no more answers")) answers
    run.2.1 =
      [reading .mutating "presets", replacing "presets" ((live "1").adopt desired),
        reading .mutating "presets", replacing "presets" ((live "2").adopt desired)] ∧
      run.1 = .ok .updated := by
  decide +kernel

end WebhookOperator
