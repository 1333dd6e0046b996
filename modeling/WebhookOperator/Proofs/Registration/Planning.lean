import WebhookOperator.Proofs.Registration.Convergence

/-!
# What a plan comes to

A plan compares a live object with the desired one in one way and merges them in another: it asks
whether the webhooks are equal and the labels there, and it writes the webhooks over and puts the
labels in.  The two fit together.  Nothing is planned exactly where the merge would change nothing,
and after the merge nothing is planned any more.

What is read back from a cluster is not what was written, since the cluster fills in what was left
out.  A desired object leaves out at most the scope of its rule, so it depends on the rule alone
whether a written object is left in peace.

* `WebhookConfiguration.adopt_eq_self_iff`: where adopting changes nothing
* `Descriptor.planned_exactly`: **what is planned for a desired object**
* `Descriptor.isConverged_filled_iff`: which objects stay converged when the cluster fills them in
* `Descriptor.rests_iff_scoped`: **which objects are left in peace once they are written**
-/

namespace WebhookOperator

theorem Dict.override_eq_self {α : Type} {dict other : Dict α}
    (h : ∀ entry ∈ other.entries, dict.get? entry.1 = some entry.2) : dict.override other = dict := by
  refine ext_get? fun key => ?_
  rw [get?_override]
  cases hfound : other.get? key with
  | none => exact Option.none_or
  | some value =>
    rw [Option.some_or]
    exact (h (key, value) (Entries.mem_of_lookup hfound)).symm

/-! ### Adopting what is there -/

namespace WebhookConfiguration

variable {kind : WebhookKind} {live desired : WebhookConfiguration kind}

/-- Adopting writes labels down even where there are none, and changes nothing else of an object
that is converged. -/
theorem adopt_eq_self_iff :
    live.adopt desired = live ↔
      live.isConverged desired = true ∧ live.metadata.labels.isSome = true := by
  constructor
  · intro h
    rw [← h]
    exact ⟨isConverged_adopt live desired, rfl⟩
  · rintro ⟨hconverged, hlabels⟩
    obtain ⟨hwebhooks, hentries⟩ := isConverged_iff.1 hconverged
    obtain ⟨labels, hlabels⟩ := Option.isSome_iff_exists.1 hlabels
    obtain ⟨metadata, webhooks⟩ := live
    have hdict : metadata.labelDict = labels := by
      rw [ObjectMeta.labelDict, hlabels]
      rfl
    rw [adopt, Dict.override_eq_self hentries, hdict, ← hlabels]
    exact congrArg (WebhookConfiguration.mk metadata) hwebhooks.symm

end WebhookConfiguration

/-! ### What is planned -/

theorem Plan.toward_eq_unchanged_iff {kind : WebhookKind} {live desired : WebhookConfiguration kind} :
    toward desired (some live) = unchanged ↔ live.isConverged desired = true := by
  cases hconverged : live.isConverged desired with
  | true => exact iff_of_true (toward_of_isConverged hconverged) rfl
  | false =>
    rw [toward_of_not_isConverged hconverged]
    exact iff_of_false nofun Bool.false_ne_true

theorem Plan.isConverged_of_written? {kind : WebhookKind} {desired object : WebhookConfiguration kind}
    {live : Option (WebhookConfiguration kind)} (h : (toward desired live).written? = some object) :
    object.isConverged desired = true := by
  cases live with
  | none =>
    obtain rfl := Option.some.inj h
    exact desired.isConverged_self
  | some live =>
    cases hconverged : live.isConverged desired with
    | true =>
      rw [toward_of_isConverged hconverged] at h
      cases h
    | false =>
      rw [toward_of_not_isConverged hconverged] at h
      obtain rfl := Option.some.inj h
      exact live.isConverged_adopt desired

namespace Descriptor

variable (kind : WebhookKind) (descriptor : Descriptor) (service : ServiceTarget)
  (caBundle : List UInt8)

/-- The label by which the operator knows its objects is all that a desired object asks for. -/
theorem entries_desired :
    (descriptor.desired kind service caBundle).metadata.labelDict.entries =
      [(managedByLabel, operatorName)] := rfl

variable {kind descriptor service caBundle}

/-- A converged object has that label, and so it has labels. -/
theorem isSome_labels_of_isConverged {live : WebhookConfiguration kind}
    (h : live.isConverged (descriptor.desired kind service caBundle) = true) :
    live.metadata.labels.isSome = true := by
  have hlabel := (WebhookConfiguration.isConverged_iff.1 h).2 (managedByLabel, operatorName)
    (by rw [entries_desired]; exact List.mem_singleton_self _)
  cases hlabels : live.metadata.labels with
  | some labels => rfl
  | none =>
    rw [ObjectMeta.labelDict, hlabels] at hlabel
    cases hlabel

theorem adopt_desired_eq_self_iff {live : WebhookConfiguration kind} :
    live.adopt (descriptor.desired kind service caBundle) = live ↔
      live.isConverged (descriptor.desired kind service caBundle) = true := by
  rw [WebhookConfiguration.adopt_eq_self_iff]
  exact and_iff_left_of_imp isSome_labels_of_isConverged

variable (kind descriptor service caBundle)

/-- **What is planned for a desired object.**  Nothing, exactly where adopting it would change
nothing.  Otherwise the live object is replaced by one with the desired webhooks and with the
desired labels over its own, and with all else that the live object says about itself; then nothing
is planned any more.  Where there is no object the desired one is made, and nothing is planned after
that either. -/
theorem planned_exactly :
    let desired := descriptor.desired kind service caBundle
    (∀ live, Plan.toward desired (some live) = .unchanged ↔ live.adopt desired = live) ∧
    (∀ live, live.adopt desired ≠ live →
      ∃ object, Plan.toward desired (some live) = .replace object ∧
        object.webhooks = desired.webhooks ∧
        (∀ key, object.metadata.labelDict.get? key =
          (desired.metadata.labelDict.get? key).or (live.metadata.labelDict.get? key)) ∧
        object.metadata = { live.metadata with labels := object.metadata.labels } ∧
        Plan.toward desired (some object) = .unchanged) ∧
    Plan.toward desired none = .create desired ∧
    Plan.toward desired (some desired) = .unchanged := by
  intro desired
  refine ⟨fun live => ?_, fun live hne => ?_, rfl,
    Plan.toward_of_isConverged desired.isConverged_self⟩
  · rw [Plan.toward_eq_unchanged_iff, adopt_desired_eq_self_iff]
  · have hconverged : live.isConverged desired = false :=
      Bool.eq_false_iff.2 (mt adopt_desired_eq_self_iff.2 hne)
    exact ⟨live.adopt desired, Plan.toward_of_not_isConverged hconverged, rfl,
      live.label_adopt desired, rfl,
      Plan.toward_of_isConverged (live.isConverged_adopt desired)⟩

/-- New certificates are put into an object that others have labelled and annotated. -/
theorem planned_exactly_renewed :
    let service : ServiceTarget := ⟨"ibm-common-services", "webhook", 443⟩
    let old := podPreset.desired .mutating service [1]
    let live := { old with metadata := { old.metadata with
      labels := some (.ofList [(managedByLabel, "helm"), ("team", "blue")])
      resourceVersion := some "7" } }
    let desired := podPreset.desired .mutating service [2]
    live.adopt desired ≠ live ∧
      ∃ object, Plan.toward desired (some live) = .replace object ∧
        object.webhooks = desired.webhooks ∧
        object.metadata.labelDict.get? managedByLabel = some operatorName ∧
        object.metadata.labelDict.get? "team" = some "blue" ∧
        object.metadata.resourceVersion = some "7" ∧
        Plan.toward desired (some object) = .unchanged := by
  intro service old live desired
  have hne : live.adopt desired ≠ live := by decide
  obtain ⟨object, hplan, hwebhooks, hlabels, hmetadata, hagain⟩ :=
    (planned_exactly .mutating podPreset service [2]).2.1 live hne
  refine ⟨hne, object, hplan, hwebhooks, ?_, ?_, ?_, hagain⟩
  · rw [hlabels]
    rfl
  · rw [hlabels]
    decide
  · rw [hmetadata]

end Descriptor

/-! ### What the cluster makes of it -/

/-- The cluster adds nothing to a rule that says its scope. -/
theorem Rule.filled_registered_iff (rule : Rule) :
    rule.registered.filled = rule.registered ↔ rule.scope.isSome = true := by
  rw [RuleWithOperations.filled, registered]
  cases rule.scope with
  | none => exact iff_of_false (by simp) Bool.false_ne_true
  | some scope => exact iff_of_true rfl rfl

namespace Descriptor

variable (kind : WebhookKind) (descriptor : Descriptor) (service : ServiceTarget)
  (caBundle : List UInt8)

/-- All that the cluster adds to the webhook of a descriptor is the scope of its rule. -/
theorem filled_webhook :
    (descriptor.webhook kind service caBundle).filled =
      { descriptor.webhook kind service caBundle with
        rules := some [descriptor.rule.registered.filled] } := by
  cases kind with
  | mutating => rfl
  | validating => rfl

theorem filled_webhook_eq_self_iff :
    (descriptor.webhook kind service caBundle).filled = descriptor.webhook kind service caBundle ↔
      descriptor.rule.scope.isSome = true := by
  rw [filled_webhook, ← Rule.filled_registered_iff]
  constructor
  · intro h
    have hrules := congrArg Webhook.rules h
    exact List.singleton_inj.1 (Option.some.inj hrules)
  · intro h
    rw [h]
    rfl

variable {kind descriptor service caBundle}

/-- A converged object stays converged under a new version and with what the cluster adds, exactly
if the rule says its scope. -/
theorem isConverged_filled_iff {object : WebhookConfiguration kind}
    (h : object.isConverged (descriptor.desired kind service caBundle) = true) (version : String) :
    (object.filled.versioned version).isConverged (descriptor.desired kind service caBundle) = true ↔
      descriptor.rule.scope.isSome = true := by
  obtain ⟨hwebhooks, hlabels⟩ := WebhookConfiguration.isConverged_iff.1 h
  have hfilled : object.filled.webhooks =
      some [(descriptor.webhook kind service caBundle).filled] := by
    rw [WebhookConfiguration.filled, hwebhooks]
    rfl
  rw [WebhookConfiguration.isConverged_versioned, WebhookConfiguration.isConverged_iff, hfilled,
    ← filled_webhook_eq_self_iff kind descriptor service caBundle]
  constructor
  · rintro ⟨hsame, -⟩
    exact List.singleton_inj.1 (Option.some.inj hsame)
  · intro hsame
    exact ⟨congrArg (fun webhook => some [webhook]) hsame, hlabels⟩

variable (kind descriptor service caBundle)

/-- What a cluster holds of the object of a descriptor after rounds in which nobody else writes it.
Each object that is written is filled in and stored under a version of its own. -/
def heldAfter (versions : Nat → String) : Nat → Option (WebhookConfiguration kind)
  | 0 => none
  | rounds + 1 =>
    let held := heldAfter versions rounds
    match (Plan.toward (descriptor.desired kind service caBundle) held).written? with
    | some object => some (object.filled.versioned (versions rounds))
    | none => held

/-- From the first round on the cluster holds a converged object as it fills it in. -/
theorem exists_heldAfter (versions : Nat → String) (rounds : Nat) :
    ∃ (object : WebhookConfiguration kind) (version : String),
      object.isConverged (descriptor.desired kind service caBundle) = true ∧
      descriptor.heldAfter kind service caBundle versions (rounds + 1) =
        some (object.filled.versioned version) := by
  induction rounds with
  | zero => exact ⟨_, versions 0, WebhookConfiguration.isConverged_self _, rfl⟩
  | succ rounds ih =>
    rw [heldAfter]
    split
    next object hwritten =>
      exact ⟨object, versions (rounds + 1), Plan.isConverged_of_written? hwritten, rfl⟩
    next => exact ih

/-- **Which objects are left in peace once they are written.**  A desired object that the cluster
has filled in and stored is left as it is exactly if the rule says its scope.  The same holds in
every round after the first one: with a scope the object is never written again, and without one it
is written in every round. -/
theorem rests_iff_scoped :
    let desired := descriptor.desired kind service caBundle
    (∀ version, Plan.toward desired (some (desired.filled.versioned version)) = .unchanged ↔
      descriptor.rule.scope.isSome = true) ∧
    ∀ versions rounds,
      Plan.toward desired (descriptor.heldAfter kind service caBundle versions (rounds + 1)) =
        .unchanged ↔ descriptor.rule.scope.isSome = true := by
  intro desired
  refine ⟨fun version => ?_, fun versions rounds => ?_⟩
  · rw [Plan.toward_eq_unchanged_iff, isConverged_filled_iff desired.isConverged_self]
  · obtain ⟨object, version, hconverged, hheld⟩ :=
      descriptor.exists_heldAfter kind service caBundle versions rounds
    rw [hheld, Plan.toward_eq_unchanged_iff, isConverged_filled_iff hconverged]

/-- A rule about the pods of every namespace that leaves its scope out: the object is not as it was
written, and so it is written again. -/
theorem unscoped_written_again :
    let unscoped := { podPreset with rule := (({} : Rule).oneResource "" "v1" "pods").forCreate }
    let desired := unscoped.desired .mutating
      ⟨"ibm-common-services", "ibm-common-service-webhook", 443⟩ [67, 65]
    let stored := desired.filled.versioned "7"
    Plan.toward desired (some stored) = .replace (stored.adopt desired) ∧
      Plan.toward desired (some stored) ≠ .unchanged := by
  decide

end Descriptor

end WebhookOperator
