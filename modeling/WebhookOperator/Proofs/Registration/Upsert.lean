import WebhookOperator.Proofs.Registration.Convergence
import WebhookOperator.Proofs.Registration.Serving

/-!
# An upsert among other writers

Other writers may do anything to a store between two requests of an upsert, and still it loses
nothing of what they did.  The reason is in the versions: what a store holds after further writes
was there before or has a version that was not given out before, so a write that is based on a
version that is still there is based on the very object that is there.

`Attempted` tells all ways in which an attempt can go.  Only its last request can change the store,
and a refused one does not, so the next attempt starts from what the others have made of the store.

* `Store.Consistent.eq_of_version`: an object that kept its version has not changed
* `WebhookConfiguration.attempted`: how one attempt goes
* `WebhookConfiguration.concluded_upsertWithin`: how any number of them ends
* `WebhookConfiguration.exists_error_of_unnamed`: names under which no object is made
* `Descriptor.upsert_loses_nothing`: **what an upsert achieves and what it leaves alone**
-/

namespace WebhookOperator

open Api

namespace Store

/-! ### What a store becomes -/

/-- What a store has become by further writes: an object in it was there before, or came since under
a version that was not given out before. -/
structure Since (earlier later : Store) : Prop where
  stamp : later.stamp = earlier.stamp
  written : earlier.written ≤ later.written
  found : ∀ kind name object, later.find? kind name = some object →
    earlier.find? kind name = some object ∨
      ∃ number, earlier.written ≤ number ∧
        object.metadata.resourceVersion = some (earlier.stamp number)

namespace Since

variable {earlier later : Store}

theorem refl (store : Store) : Since store store :=
  ⟨rfl, Nat.le_refl _, fun _ _ _ h => Or.inl h⟩

theorem put (h : Since earlier later) (kind : WebhookKind) (name : String)
    (object : WebhookConfiguration kind) : Since earlier (later.put kind name object) := by
  refine ⟨by rw [stamp_put, h.stamp], Nat.le_succ_of_le h.written, ?_⟩
  intro kind' name' found hfound
  rcases find?_put_cases hfound with ⟨rfl, rfl, rfl⟩ | hfound
  · exact Or.inr ⟨later.written, h.written, by rw [← h.stamp]; rfl⟩
  · exact h.found kind' name' found hfound

theorem remove (h : Since earlier later) (kind : WebhookKind) (name : String) :
    Since earlier (later.remove kind name) := by
  refine ⟨?_, ?_, fun kind' name' found hfound =>
    h.found kind' name' found (find?_of_find?_remove hfound)⟩
  · rw [Store.remove, stamp_place, h.stamp]
  · rw [Store.remove, written_place]
    exact h.written

theorem on (h : Since earlier later) (write : ForeignWrite) : Since earlier (write.on later) := by
  cases write with
  | put kind name object => exact h.put kind name _
  | remove kind name => exact h.remove kind name

theorem foldl (h : Since earlier later) (writes : List ForeignWrite) :
    Since earlier (writes.foldl ForeignWrite.on later) := by
  induction writes generalizing later with
  | nil => exact h
  | cons write writes ih => exact ih (h.on write)

end Since

theorem Consistent.foldl {store : Store} (h : store.Consistent) (writes : List ForeignWrite) :
    (writes.foldl ForeignWrite.on store).Consistent := by
  induction writes generalizing store with
  | nil => exact h
  | cons write writes ih => exact ih (h.on write)

/-- **An object that kept its version has not changed.** -/
theorem Consistent.eq_of_version {earlier later : Store} (h : earlier.Consistent)
    (hsince : Since earlier later) {kind : WebhookKind} {name : String}
    {read live : WebhookConfiguration kind} (hread : earlier.find? kind name = some read)
    (hlive : later.find? kind name = some live)
    (hversion : read.metadata.resourceVersion = live.metadata.resourceVersion) : live = read := by
  rcases hsince.found kind name live hlive with hlive | ⟨number, hle, hnew⟩
  · exact Option.some.inj (hlive.symm.trans hread)
  · obtain ⟨version, hold, hne⟩ := h.versioned kind name read hread
    have heq : version = earlier.stamp number :=
      Option.some.inj (hold.symm.trans (hversion.trans hnew))
    exact absurd heq (hne number hle)

end Store

namespace SharedStore

/-- What the others alone make of the store up to a number of requests. -/
def undisturbed (shared : SharedStore) (turns : Nat) : Store :=
  (shared.foreign.take turns).flatten.foldl ForeignWrite.on shared.store

variable (shared : SharedStore)

theorem undisturbed_succ (turns : Nat) :
    shared.undisturbed (turns + 1) = shared.passed.undisturbed turns := by
  obtain ⟨store, foreign, found⟩ := shared
  cases foreign with
  | nil => simp [undisturbed, passed, left, met]
  | cons writes foreign => simp [undisturbed, passed, left, met, List.foldl_append]

theorem undisturbed_one : shared.undisturbed 1 = shared.met := shared.undisturbed_succ 0

theorem undisturbed_two : shared.undisturbed 2 = shared.passed.met := by
  rw [undisturbed_succ, undisturbed_one]

end SharedStore

/-! ### One attempt -/

namespace WebhookConfiguration

variable {kind : WebhookKind}

/-- How an attempt to store an object under a name can go: its result, its requests, and what there
is after it. -/
inductive Attempted (desired : WebhookConfiguration kind) (name : String) (shared : SharedStore) :
    Except ApiError Applied × List Request × SharedStore → Prop
  /-- The name makes no request. -/
  | unsent {error : ApiError} : name = "" ∨ target? name = none →
      Attempted desired name shared (.error error, [], shared)
  | unchanged {live : WebhookConfiguration kind} :
      shared.met.find? kind (Store.reached name) = some live → live.isConverged desired = true →
      Attempted desired name shared
        (.ok .unchanged, [reading kind (sent name)], shared.passed)
  | created : Store.isObjectName name = true → (target? name).isSome →
      shared.met.find? kind name = none → shared.passed.met.find? kind name = none →
      Attempted desired name shared
        (.ok .created, [reading kind (sent name), creating desired],
          shared.passed.left (shared.passed.met.put kind name desired))
  | updated {live : WebhookConfiguration kind} :
      shared.met.find? kind (Store.reached name) = some live → live.isConverged desired = false →
      shared.passed.met.find? kind (Store.reached name) = some live →
      Attempted desired name shared
        (.ok .updated, [reading kind (sent name), replacing (sent name) (live.adopt desired)],
          shared.passed.left
            (shared.passed.met.put kind (Store.reached name) (live.adopt desired)))
  /-- Another writer came in between, or no object may have the name. -/
  | refused {error : ApiError} {write : Request} :
      (Store.isObjectName name = true →
        shared.passed.met.find? kind name ≠ shared.met.find? kind name) →
      Attempted desired name shared
        (.error error, [reading kind (sent name), write], shared.passed.passed)

theorem displayName_of_name {metadata : ObjectMeta} {name : String}
    (h : metadata.name = some name) : metadata.displayName = name := by
  rw [ObjectMeta.displayName, h]
  rfl

/-- **Every attempt goes in one of these ways.** -/
theorem attempted {desired : WebhookConfiguration kind} {name : String}
    (hname : desired.metadata.name = some name) {shared : SharedStore}
    (h : shared.store.Consistent) :
    Attempted desired name shared ((attempt desired).run SharedStore.serve shared) := by
  have hpassed : Store.Since shared.met shared.passed.met := (Store.Since.refl _).foldl _
  rw [attempt, displayName_of_name hname]
  by_cases hunsent : name = "" ∨ target? name = none
  · obtain ⟨error, hread⟩ := run_find?_unsent SharedStore.serve shared kind hunsent
    rw [Session.run_bind_of_run hread]
    exact .unsent hunsent
  obtain ⟨hempty, htarget⟩ := not_or.1 hunsent
  have htarget : (target? name).isSome := Option.isSome_iff_ne_none.2 htarget
  rw [Session.run_bind_of_run (shared.run_find? hempty htarget)]
  cases hread : shared.met.find? kind (Store.reached name) with
  | none =>
    dsimp only [Plan.toward]
    rcases shared.passed.run_create hname with ⟨hobject, hnone, hcreate⟩ | ⟨hnot, error, hcreate⟩
    · rw [Session.run_bind_of_run hcreate]
      rw [Store.reached_of_isObjectName hobject] at hread
      exact .created hobject htarget hread hnone
    · rw [Session.run_bind_of_run hcreate]
      refine .refused fun hobject heq => hnot hobject (heq.trans ?_)
      rwa [Store.reached_of_isObjectName hobject] at hread
  | some live =>
    dsimp only
    cases hconverged : live.isConverged desired with
    | true =>
      rw [Plan.toward_of_isConverged hconverged]
      exact .unchanged hread hconverged
    | false =>
      rw [Plan.toward_of_not_isConverged hconverged]
      have hadopted : (live.adopt desired).metadata.name = some (Store.reached name) :=
        (h.foldl _).named kind _ live hread
      rcases shared.passed.run_replace hempty htarget hadopted with
        ⟨other, hother, hversion, hreplace⟩ | ⟨hnot, error, hreplace⟩
      · -- the version that was read is still there, and so is the object
        have heq : other = live := (h.foldl _).eq_of_version hpassed hread hother hversion
        rw [heq] at hother
        rw [Session.run_bind_of_run hreplace]
        exact .updated hread hconverged hother
      · rw [Session.run_bind_of_run hreplace]
        refine .refused fun hobject heq => ?_
        rw [Store.reached_of_isObjectName hobject] at hread hnot
        exact hnot live (heq.trans hread) rfl

/-- **Where no other writer comes in between, the first attempt is good.** -/
theorem run_upsert_of_found_eq {desired : WebhookConfiguration kind} {name : String}
    (hname : desired.metadata.name = some name) (hobject : Store.isObjectName name = true)
    (htarget : (target? name).isSome) {shared : SharedStore} (h : shared.store.Consistent)
    (hsame : shared.passed.met.find? kind name = shared.met.find? kind name) :
    desired.upsert.run SharedStore.serve shared =
      match shared.met.find? kind name with
      | none =>
        (.ok .created, [reading kind name, creating desired],
          shared.passed.left (shared.passed.met.put kind name desired))
      | some live =>
        if live.isConverged desired then (.ok .unchanged, [reading kind name], shared.passed)
        else
          (.ok .updated, [reading kind name, replacing name (live.adopt desired)],
            shared.passed.left (shared.passed.met.put kind name (live.adopt desired))) := by
  have hreached := Store.reached_of_isObjectName hobject
  have hsent := Store.sent_of_isObjectName hobject
  have hattempted := attempted hname h
  rw [upsert, maxAttempts, upsertWithin, Session.run_bind]
  generalize (attempt desired).run SharedStore.serve shared = run at hattempted ⊢
  cases hattempted with
  | unsent hunsent =>
    rcases hunsent with hunsent | hunsent
    · exact absurd hunsent (Store.ne_empty_of_isObjectName hobject)
    · rw [hunsent] at htarget
      cases htarget
  | unchanged hlive hconverged =>
    rw [hreached] at hlive
    rw [hsent, hlive]
    dsimp only
    rw [if_pos hconverged]
    rfl
  | created _ _ hread =>
    rw [hsent, hread]
    rfl
  | updated hread hconverged =>
    rw [hreached] at hread ⊢
    rw [hsent, hread]
    dsimp only
    rw [if_neg (Bool.eq_false_iff.1 hconverged)]
    rfl
  | refused hnot => exact absurd hsame (hnot hobject)

/-! ### Any number of attempts -/

/-- How an upsert of an object at a place ends: its result, with the store that the last request
found and the one that it left. -/
inductive Concluded (desired : WebhookConfiguration kind) (place : String) (found : Store) :
    Store → Except RegistrationError Applied → Prop
  | failed {error : RegistrationError} : Concluded desired place found found (.error error)
  | unchanged {live : WebhookConfiguration kind} :
      found.find? kind place = some live → live.isConverged desired = true →
      Concluded desired place found found (.ok .unchanged)
  | created : found.find? kind place = none →
      Concluded desired place found (found.put kind place desired) (.ok .created)
  | updated {live : WebhookConfiguration kind} : found.find? kind place = some live →
      Concluded desired place found (found.put kind place (live.adopt desired)) (.ok .updated)

theorem concluded_upsertWithin {desired : WebhookConfiguration kind} {name : String}
    (hname : desired.metadata.name = some name) (attempts : Nat) {shared : SharedStore}
    (h : shared.store.Consistent) (hfound : shared.found = shared.store) :
    let run := (upsertWithin desired attempts).run SharedStore.serve shared
    Concluded desired (Store.reached name) run.2.2.found run.2.2.store run.1 ∧
      run.2.2.found = shared.undisturbed run.2.1.length := by
  induction attempts generalizing shared with
  | zero =>
    refine ⟨?_, hfound⟩
    change Concluded desired _ shared.found shared.store _
    rw [hfound]
    exact .failed
  | succ attempts ih =>
    -- after an error the next attempts, if any, start from what the others have made of the store
    have hnext : ∀ (error : ApiError) (after : SharedStore), after.store.Consistent →
        after.found = after.store →
        let session : Session (Except RegistrationError Applied) :=
          if error.isConflict then upsertWithin desired attempts else return .error (.api error)
        let run := session.run SharedStore.serve after
        Concluded desired (Store.reached name) run.2.2.found run.2.2.store run.1 ∧
          run.2.2.found = after.undisturbed run.2.1.length := by
      intro error after hafter hfound
      dsimp only
      split
      · exact ih hafter hfound
      · refine ⟨?_, hfound⟩
        change Concluded desired _ after.found after.store _
        rw [hfound]
        exact .failed
    have hattempted := attempted hname h
    rw [upsertWithin, Session.run_bind]
    generalize (attempt desired).run SharedStore.serve shared = run at hattempted ⊢
    cases hattempted with
    | @unsent error hunsent => exact hnext error shared h hfound
    | unchanged hlive hconverged =>
      exact ⟨.unchanged hlive hconverged, shared.undisturbed_one.symm⟩
    | created hobject _ _ hnone =>
      refine ⟨?_, (shared.undisturbed_two).symm⟩
      rw [Store.reached_of_isObjectName hobject]
      exact .created hnone
    | updated _ _ hlive => exact ⟨.updated hlive, (shared.undisturbed_two).symm⟩
    | @refused error write hnot =>
      have hpassed : shared.passed.passed.store.Consistent := (h.foldl _).foldl _
      obtain ⟨hconcluded, hundisturbed⟩ := hnext error shared.passed.passed hpassed rfl
      refine ⟨hconcluded, hundisturbed.trans ?_⟩
      rw [← SharedStore.undisturbed_succ, ← SharedStore.undisturbed_succ]
      rfl

/-- **A name that is not a segment of a path gets no object**, where there is none that its requests
are about and nobody else makes one. -/
theorem exists_error_of_unnamed {desired : WebhookConfiguration kind} {name : String}
    (hname : desired.metadata.name = some name)
    (hunnamed : ¬(Store.isObjectName name = true ∧ (target? name).isSome)) (attempts : Nat)
    {shared : SharedStore} (h : shared.store.Consistent) (halone : shared.foreign = [])
    (hnone : shared.store.find? kind (Store.reached name) = none) :
    ∃ error, ((upsertWithin desired attempts).run SharedStore.serve shared).1 = .error error := by
  have hmet : ∀ other : SharedStore, other.foreign = [] → other.met = other.store := by
    intro other hother
    rw [SharedStore.met, hother]
    rfl
  induction attempts generalizing shared with
  | zero => exact ⟨_, rfl⟩
  | succ attempts ih =>
    have hnext : ∀ (error : ApiError) (after : SharedStore), after.foreign = [] →
        after.store = shared.store →
        let session : Session (Except RegistrationError Applied) :=
          if error.isConflict then upsertWithin desired attempts else return .error (.api error)
        ∃ error, (session.run SharedStore.serve after).1 = .error error := by
      intro error after hafter hstore
      dsimp only
      split
      · exact ih (hstore ▸ h) hafter (hstore ▸ hnone)
      · exact ⟨_, rfl⟩
    have hattempted := attempted hname h
    rw [upsertWithin, Session.run_bind]
    generalize (attempt desired).run SharedStore.serve shared = run at hattempted ⊢
    cases hattempted with
    | @unsent error _ => exact hnext error shared halone rfl
    | unchanged hlive =>
      rw [hmet shared halone, hnone] at hlive
      cases hlive
    | created hobject htarget => exact absurd ⟨hobject, htarget⟩ hunnamed
    | updated hlive =>
      rw [hmet shared halone, hnone] at hlive
      cases hlive
    | @refused error write _ =>
      have hpassed : shared.passed.foreign = [] := congrArg List.tail halone
      refine hnext error shared.passed.passed (congrArg List.tail hpassed) ?_
      change shared.passed.met = shared.store
      rw [hmet shared.passed hpassed]
      exact hmet shared halone

namespace Concluded

variable {desired : WebhookConfiguration kind} {place : String} {found store : Store}

/-- After a good end the object is converged. -/
theorem isConverged {applied : Applied} (h : Concluded desired place found store (.ok applied)) :
    ∃ object, store.find? kind place = some object ∧ object.isConverged desired = true := by
  cases h with
  | unchanged hlive hconverged => exact ⟨_, hlive, hconverged⟩
  | created =>
    refine ⟨_, found.find?_put_self kind place desired, ?_⟩
    rw [isConverged_versioned, isConverged_self]
  | @updated live =>
    refine ⟨_, found.find?_put_self kind place (live.adopt desired), ?_⟩
    rw [isConverged_versioned, isConverged_adopt]

theorem exists_live (h : Concluded desired place found store (.ok .updated)) :
    ∃ live, found.find? kind place = some live ∧
      store = found.put kind place (live.adopt desired) := by
  cases h with
  | updated hlive => exact ⟨_, hlive, rfl⟩

theorem find?_eq_none (h : Concluded desired place found store (.ok .created)) :
    found.find? kind place = none := by
  cases h with
  | created hnone => exact hnone

theorem eq_of_error {error : RegistrationError}
    (h : Concluded desired place found store (.error error)) : store = found := by
  cases h with
  | failed => rfl

/-- The other objects are as they were. -/
theorem find?_of_ne {result : Except RegistrationError Applied}
    (h : Concluded desired place found store result) {kind' : WebhookKind} {name : String}
    (hne : kind' = kind → name ≠ place) : store.find? kind' name = found.find? kind' name := by
  cases h with
  | failed => rfl
  | unchanged => rfl
  | created => exact found.find?_put_of_ne desired hne
  | @updated live => exact found.find?_put_of_ne (live.adopt desired) hne

end Concluded

end WebhookConfiguration

/-- No object has the version that the next write stores under. -/
theorem Store.Consistent.version_ne_nextVersion {store : Store} (h : store.Consistent)
    {kind : WebhookKind} {name : String} {object : WebhookConfiguration kind}
    (hfind : store.find? kind name = some object) :
    object.metadata.resourceVersion ≠ some store.nextVersion := by
  obtain ⟨version, hversion, hnew⟩ := h.versioned kind name object hfind
  rw [hversion]
  exact fun heq => hnew store.written (Nat.le_refl _) (Option.some.inj heq)

/-- **An upsert loses nothing.**  All requests but the last leave the store to the other writers,
and the last one changes nothing but the object of the name.  After a good end this object is
converged; after an update it is the object that the last request found, with the desired webhooks,
the desired labels and a new version; it is made only where there was none; and an error leaves it
alone. -/
theorem Descriptor.upsert_loses_nothing (descriptor : Descriptor) (kind : WebhookKind)
    (service : ServiceTarget) (caBundle : List UInt8) {store : Store} (h : store.Consistent)
    (foreign : List (List ForeignWrite)) {result : Except RegistrationError Applied}
    {requests : List Request} {shared : SharedStore}
    (hrun : (descriptor.desired kind service caBundle).upsert.run SharedStore.serve
      { store := store, foreign := foreign } = (result, requests, shared)) :
    let desired := descriptor.desired kind service caBundle
    let place := Store.reached descriptor.name
    shared.found = (foreign.take requests.length).flatten.foldl ForeignWrite.on store ∧
    (∀ kind' name, (kind' = kind → name ≠ place) →
      shared.store.find? kind' name = shared.found.find? kind' name) ∧
    (∀ applied, result = .ok applied →
      ∃ object, shared.store.find? kind place = some object ∧ object.isConverged desired = true) ∧
    (result = .ok .updated →
      ∃ live object, shared.found.find? kind place = some live ∧
        shared.store.find? kind place = some object ∧
        object.webhooks = desired.webhooks ∧
        (∀ key, object.metadata.labelDict.get? key =
          (desired.metadata.labelDict.get? key).or (live.metadata.labelDict.get? key)) ∧
        (∀ kind' name (other : WebhookConfiguration kind'),
          shared.found.find? kind' name = some other →
            other.metadata.resourceVersion ≠ object.metadata.resourceVersion) ∧
        object.metadata = { live.metadata with
          labels := object.metadata.labels
          resourceVersion := object.metadata.resourceVersion }) ∧
    (result = .ok .created → shared.found.find? kind place = none) ∧
    (∀ error, result = .error error → shared.store = shared.found) := by
  intro desired place
  have hname : desired.metadata.name = some descriptor.name := rfl
  have hstore : (SharedStore.mk store foreign store).store.Consistent := h
  obtain ⟨hconcluded, hfound⟩ := WebhookConfiguration.concluded_upsertWithin hname
    WebhookConfiguration.maxAttempts hstore rfl
  rw [← WebhookConfiguration.upsert, hrun] at hconcluded hfound
  have hfound : shared.found = (foreign.take requests.length).flatten.foldl ForeignWrite.on store :=
    hfound
  have hconsistent : shared.found.Consistent := by
    rw [hfound]
    exact h.foldl _
  refine ⟨hfound, fun _ _ hne => hconcluded.find?_of_ne hne, ?_, ?_, ?_, ?_⟩
  · rintro applied rfl
    exact hconcluded.isConverged
  · rintro rfl
    obtain ⟨live, hlive, hstore⟩ := hconcluded.exists_live
    refine ⟨live, (live.adopt desired).versioned shared.found.nextVersion, hlive, ?_, rfl,
      live.label_adopt desired, ?_, rfl⟩
    · dsimp only at hstore
      rw [hstore]
      exact shared.found.find?_put_self kind place (live.adopt desired)
    · intro kind' name other hother
      exact hconsistent.version_ne_nextVersion hother
  · rintro rfl
    exact hconcluded.find?_eq_none
  · rintro error rfl
    exact hconcluded.eq_of_error

/-- Another writer annotates the object right before an upsert brings in new certificates, and its
annotation is kept. -/
theorem Descriptor.upsert_loses_nothing_annotated :
    let service : ServiceTarget := ⟨"ibm-common-services", "webhook", 443⟩
    let old := podPreset.desired .mutating service [1]
    let annotated := { old with metadata := old.metadata.annotate "team" "blue" }
    let store := Store.put {} .mutating podPreset.name old
    let foreign := [[.put .mutating podPreset.name annotated]]
    store.Consistent ∧
      ∃ requests shared object,
        (podPreset.desired .mutating service [2]).upsert.run SharedStore.serve
          { store := store, foreign := foreign } = (.ok .updated, requests, shared) ∧
        shared.store.find? .mutating podPreset.name = some object ∧
        object.webhooks = (podPreset.desired .mutating service [2]).webhooks ∧
        object.metadata.annotation? "team" = some "blue" := by
  intro service old annotated store foreign
  have hstore : store.Consistent := Store.consistent_empty.put rfl
  have hobject : Store.isObjectName podPreset.name = true := by decide +kernel
  have htarget : (target? podPreset.name).isSome := by decide +kernel
  have hread : (SharedStore.mk store foreign store).met.find? .mutating podPreset.name =
      some (annotated.versioned store.nextVersion) :=
    store.find?_put_self .mutating podPreset.name annotated
  have hconverged : (annotated.versioned store.nextVersion).isConverged
      (podPreset.desired .mutating service [2]) = false := by decide
  have hrun := WebhookConfiguration.run_upsert_of_found_eq
    (show (podPreset.desired .mutating service [2]).metadata.name = some podPreset.name from rfl)
    hobject htarget (show (SharedStore.mk store foreign store).store.Consistent from hstore) rfl
  rw [hread] at hrun
  dsimp only at hrun
  rw [if_neg (Bool.eq_false_iff.1 hconverged)] at hrun
  obtain ⟨-, -, -, hupdated, -, -⟩ :=
    upsert_loses_nothing podPreset .mutating service [2] hstore foreign hrun
  rw [Store.reached_of_isObjectName hobject] at hupdated
  obtain ⟨live, object, hlive, hobject, hwebhooks, -, -, hmetadata⟩ := hupdated rfl
  have hlive : annotated.versioned store.nextVersion = live :=
    Option.some.inj ((store.find?_put_self .mutating podPreset.name annotated).symm.trans hlive)
  refine ⟨hstore, _, _, object, hrun, hobject, hwebhooks, ?_⟩
  rw [hmetadata, ← hlive]
  rfl

end WebhookOperator
