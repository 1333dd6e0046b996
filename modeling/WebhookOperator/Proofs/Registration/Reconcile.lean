import WebhookOperator.Proofs.Registration.Registry
import WebhookOperator.Proofs.Registration.Upsert
import WebhookOperator.Registration.Reconcile

/-!
# A round over all descriptors

A round makes the registration objects of all descriptors right, one after the other.  Names are
unique in a registry, so no descriptor undoes what another one did, and a round on a store that
nobody else changes leaves every object as its descriptor asks for.  The next round then only reads.

Whatever the answers are, a round stops at the first descriptor that fails, and what it has sent and
counted is what the descriptors up to this one account for.

* `Registry.nodup_names_of_ofList`: names are unique in a registry
* `Descriptor.run_reconcile`: what one descriptor does to a store that nobody else changes
* `run_reconcileEach`: what all of them do to it, descriptor by descriptor (`Arranged.cons`)
* `reconcileEach_cases`: where a round ends
* `Registry.reconcileAll_converges`: **a round converges, the next one rests**
-/

namespace WebhookOperator

open Api

/-! ### Names in a registry -/

namespace Registry

/-- A registry has the descriptors that were added, under different names. -/
theorem nodup_names_of_ofList {descriptors : List Descriptor} {registry : Registry}
    (h : ofList descriptors = .ok registry) :
    registry.descriptors = descriptors ∧ (descriptors.map (·.name)).Nodup := by
  obtain ⟨hmade, hunambiguous⟩ := unambiguous_of_ofList h
  exact ⟨hmade, hmade ▸ hunambiguous.names⟩

end Registry

/-! ### Without other writers -/

theorem Api.Session.run_alone {α : Type} (session : Session α) (store found : Store) :
    let run := session.run SharedStore.serve { store := store, found := found }
    session.run Store.serve store = (run.1, run.2.1, run.2.2.store) := by
  induction session generalizing store found with
  | done => rfl
  | call request next ih =>
    have hnext := ih (store.serve request).1 (store.serve request).2 store
    change (((next (store.serve request).1).run Store.serve (store.serve request).2).1,
      request :: ((next (store.serve request).1).run Store.serve (store.serve request).2).2.1,
      ((next (store.serve request).1).run Store.serve (store.serve request).2).2.2) = _
    rw [hnext]
    rfl

namespace Descriptor

open WebhookConfiguration

/-- Whether a store has the object of a descriptor, as it asks for. -/
def isRegistered (descriptor : Descriptor) (service : ServiceTarget) (caBundle : List UInt8)
    (store : Store) : Bool :=
  (store.find? descriptor.kind descriptor.name).any
    (·.isConverged (descriptor.desired descriptor.kind service caBundle))

/-- Whether the name of a descriptor is the last segment of a path as it is. -/
def IsNamed (descriptor : Descriptor) : Prop :=
  Store.isObjectName descriptor.name = true ∧ (target? descriptor.name).isSome

instance (descriptor : Descriptor) : Decidable descriptor.IsNamed :=
  inferInstanceAs (Decidable (_ ∧ _))

variable {descriptor : Descriptor}

theorem isRegistered_congr {service : ServiceTarget} {caBundle : List UInt8} {store other : Store}
    (h : store.find? descriptor.kind descriptor.name =
      other.find? descriptor.kind descriptor.name) :
    descriptor.isRegistered service caBundle store =
      descriptor.isRegistered service caBundle other := by
  rw [isRegistered, isRegistered, h]

theorem run_upsert (hnamed : descriptor.IsNamed) (service : ServiceTarget) (caBundle : List UInt8)
    {store : Store} (h : store.Consistent) :
    let desired := descriptor.desired descriptor.kind service caBundle
    (descriptor.reconcile service caBundle).run Store.serve store =
      match store.find? descriptor.kind descriptor.name with
      | none =>
        (.ok .created, [reading descriptor.kind descriptor.name, creating desired],
          store.put descriptor.kind descriptor.name desired)
      | some live =>
        if live.isConverged desired then
          (.ok .unchanged, [reading descriptor.kind descriptor.name], store)
        else
          (.ok .updated, [reading descriptor.kind descriptor.name,
              replacing descriptor.name (live.adopt desired)],
            store.put descriptor.kind descriptor.name (live.adopt desired)) := by
  intro desired
  have hname : desired.metadata.name = some descriptor.name := rfl
  have hstore : (SharedStore.mk store [] store).store.Consistent := h
  have hrun := run_upsert_of_found_eq hname hnamed.1 hnamed.2 hstore rfl
  have halone := (descriptor.reconcile service caBundle).run_alone store store
  rw [reconcile] at halone ⊢
  rw [halone, hrun]
  have hmet : (SharedStore.mk store [] store).met.find? descriptor.kind descriptor.name =
    store.find? descriptor.kind descriptor.name := rfl
  rw [hmet]
  cases store.find? descriptor.kind descriptor.name with
  | none => rfl
  | some live =>
    dsimp only
    split <;> rfl

/-- Where the object is right, it is only looked at. -/
theorem run_reconcile_of_isRegistered (hnamed : descriptor.IsNamed) {service : ServiceTarget}
    {caBundle : List UInt8} {store : Store} (h : store.Consistent)
    (hright : descriptor.isRegistered service caBundle store = true) :
    (descriptor.reconcile service caBundle).run Store.serve store =
      (.ok .unchanged, [reading descriptor.kind descriptor.name], store) := by
  rw [run_upsert hnamed service caBundle h]
  cases hfind : store.find? descriptor.kind descriptor.name with
  | none =>
    rw [isRegistered, hfind] at hright
    cases hright
  | some live =>
    rw [isRegistered, hfind, Option.any_some] at hright
    exact if_pos hright

/-- Where it is not, a converged object is stored. -/
theorem run_reconcile_of_not_isRegistered (hnamed : descriptor.IsNamed) {service : ServiceTarget}
    {caBundle : List UInt8} {store : Store} (h : store.Consistent)
    (hwrong : descriptor.isRegistered service caBundle store = false) :
    ∃ applied requests object,
      (descriptor.reconcile service caBundle).run Store.serve store =
        (.ok applied, requests, store.put descriptor.kind descriptor.name object) ∧
      applied ≠ .unchanged ∧ object.metadata.name = some descriptor.name ∧
      object.isConverged (descriptor.desired descriptor.kind service caBundle) = true := by
  rw [run_upsert hnamed service caBundle h]
  cases hfind : store.find? descriptor.kind descriptor.name with
  | none => exact ⟨_, _, _, rfl, by decide, rfl, isConverged_self _⟩
  | some live =>
    have hconverged : ¬live.isConverged (descriptor.desired descriptor.kind service caBundle) := by
      rw [isRegistered, hfind, Option.any_some] at hwrong
      rw [hwrong]
      exact Bool.false_ne_true
    dsimp only
    rw [if_neg hconverged]
    exact ⟨_, _, _, rfl, by decide, h.named _ _ live hfind, isConverged_adopt _ _⟩

/-- Where the name of a descriptor is not a segment of a path, an empty store stays without its
object. -/
theorem exists_error_of_not_isNamed (h : ¬descriptor.IsNamed) (service : ServiceTarget)
    (caBundle : List UInt8) :
    ∃ error, ((descriptor.reconcile service caBundle).run Store.serve {}).1 = .error error := by
  rw [(descriptor.reconcile service caBundle).run_alone {} {}]
  have hname : (descriptor.desired descriptor.kind service caBundle).metadata.name =
    some descriptor.name := rfl
  refine exists_error_of_unnamed hname h maxAttempts Store.consistent_empty rfl ?_
  cases descriptor.kind <;> rfl

end Descriptor

/-! ### A round on a store -/

section

variable (service : ServiceTarget) (caBundle : List UInt8)

/-- What descriptors make of a store: their objects are right afterwards and the others are as they
were; where all of them were right before, nothing changes. -/
structure Arranged (descriptors : List Descriptor) (store after : Store) : Prop where
  consistent : after.Consistent
  registered : ∀ descriptor ∈ descriptors, descriptor.isRegistered service caBundle after = true
  others : ∀ kind name,
    (∀ descriptor ∈ descriptors, descriptor.kind = kind → descriptor.name ≠ name) →
      after.find? kind name = store.find? kind name
  rests : (∀ descriptor ∈ descriptors, descriptor.isRegistered service caBundle store = true) →
    after = store

namespace Arranged

variable {service caBundle} {store middle after : Store} {descriptor : Descriptor}
  {rest : List Descriptor}

theorem nil (h : store.Consistent) : Arranged service caBundle [] store store where
  consistent := h
  registered _ hmem := absurd hmem List.not_mem_nil
  others _ _ _ := rfl
  rests _ := rfl

theorem isRegistered_eq (h : Arranged service caBundle rest store after)
    (hne : ∀ other ∈ rest, other.name ≠ descriptor.name) :
    descriptor.isRegistered service caBundle after =
      descriptor.isRegistered service caBundle store :=
  Descriptor.isRegistered_congr (h.others _ _ fun other hmem _ => hne other hmem)

theorem cons (h : Arranged service caBundle [descriptor] store middle)
    (hrest : Arranged service caBundle rest middle after)
    (hne : ∀ other ∈ rest, other.name ≠ descriptor.name) :
    Arranged service caBundle (descriptor :: rest) store after where
  consistent := hrest.consistent
  registered := by
    refine List.forall_mem_cons.2 ⟨?_, hrest.registered⟩
    rw [hrest.isRegistered_eq hne]
    exact h.registered descriptor List.mem_cons_self
  others kind name hdiffer := by
    obtain ⟨hfirst, hdiffer⟩ := List.forall_mem_cons.1 hdiffer
    rw [hrest.others kind name hdiffer]
    exact h.others kind name (List.forall_mem_singleton.2 hfirst)
  rests hbefore := by
    obtain ⟨hfirst, hbefore⟩ := List.forall_mem_cons.1 hbefore
    obtain rfl := h.rests (List.forall_mem_singleton.2 hfirst)
    exact hrest.rests hbefore

end Arranged

/-- **What one descriptor does to a store.** -/
theorem Descriptor.run_reconcile {descriptor : Descriptor} (hnamed : descriptor.IsNamed)
    {store : Store} (h : store.Consistent) :
    ∃ applied requests after,
      (descriptor.reconcile service caBundle).run Store.serve store =
        (.ok applied, requests, after) ∧
      Arranged service caBundle [descriptor] store after ∧
      (applied = .unchanged ↔ descriptor.isRegistered service caBundle store = true) ∧
      (descriptor.isRegistered service caBundle store = true →
        ∀ request ∈ requests, request.method = .get) := by
  cases hright : descriptor.isRegistered service caBundle store with
  | true =>
    refine ⟨.unchanged, _, store, run_reconcile_of_isRegistered hnamed h hright, ?_,
      iff_of_true rfl rfl, fun _ => List.forall_mem_singleton.2 rfl⟩
    exact ⟨h, List.forall_mem_singleton.2 hright, fun _ _ _ => rfl, fun _ => rfl⟩
  | false =>
    obtain ⟨applied, requests, object, hrun, happlied, hobject, hconverged⟩ :=
      run_reconcile_of_not_isRegistered hnamed h hright
    refine ⟨applied, requests, _, hrun, ?_, iff_of_false happlied Bool.false_ne_true,
      fun htrue => absurd htrue Bool.false_ne_true⟩
    refine ⟨h.put hobject, List.forall_mem_singleton.2 ?_, fun kind name hdiffer => ?_,
      fun hbefore => ?_⟩
    · rw [isRegistered, store.find?_put_self, Option.any_some,
        WebhookConfiguration.isConverged_versioned, hconverged]
    · have hne := List.forall_mem_singleton.1 hdiffer
      exact store.find?_put_of_ne object fun hkind hname => hne hkind.symm hname.symm
    · rw [List.forall_mem_singleton.1 hbefore] at hright
      cases hright

/-- **What a round does to a store.**  It counts the descriptors whose objects were not right. -/
theorem run_reconcileEach {descriptors : List Descriptor}
    (hnamed : ∀ descriptor ∈ descriptors, descriptor.IsNamed)
    (hnodup : (descriptors.map (·.name)).Nodup) (written : Nat) (metrics : Metrics) {store : Store}
    (h : store.Consistent) :
    ∃ counted requests after,
      (reconcileEach service caBundle written metrics descriptors).run Store.serve store =
        ((.ok (written + descriptors.countP (!·.isRegistered service caBundle store)), counted),
          requests, after) ∧
      Arranged service caBundle descriptors store after ∧
      ((∀ descriptor ∈ descriptors, descriptor.isRegistered service caBundle store = true) →
        ∀ request ∈ requests, request.method = .get) := by
  induction descriptors generalizing written metrics store with
  | nil =>
    exact ⟨metrics, [], store, rfl, .nil h, fun _ _ hmem => absurd hmem List.not_mem_nil⟩
  | cons descriptor rest ih =>
    obtain ⟨hfirst, hrest⟩ := List.forall_mem_cons.1 hnamed
    rw [List.map_cons, List.nodup_cons] at hnodup
    obtain ⟨hname, hnodup⟩ := hnodup
    have hne : ∀ other ∈ rest, other.name ≠ descriptor.name := fun other hmem heq =>
      hname (heq ▸ List.mem_map_of_mem hmem)
    obtain ⟨applied, sent, middle, hrun, harranged, happlied, hsent⟩ :=
      Descriptor.run_reconcile service caBundle hfirst h
    obtain ⟨counted, more, after, hrunRest, harrangedRest, hmore⟩ :=
      ih hrest hnodup (if applied = .unchanged then written else written + 1)
        (metrics.recordReconciliation descriptor.name) harranged.consistent
    have hsame : ∀ other ∈ rest, other.isRegistered service caBundle middle =
        other.isRegistered service caBundle store := fun other hmem =>
      harranged.isRegistered_eq (List.forall_mem_singleton.2 (hne other hmem).symm)
    have hcountRest : rest.countP (!·.isRegistered service caBundle middle) =
        rest.countP (!·.isRegistered service caBundle store) :=
      List.countP_congr fun other hmem => by rw [hsame other hmem]
    have hcount : (if applied = .unchanged then written else written + 1) +
        rest.countP (!·.isRegistered service caBundle middle) =
          written + (descriptor :: rest).countP (!·.isRegistered service caBundle store) := by
      rw [List.countP_cons, hcountRest]
      by_cases hbefore : applied = .unchanged
      · rw [if_pos hbefore, happlied.1 hbefore]
        rfl
      · rw [if_neg hbefore, Bool.eq_false_iff.2 fun htrue => hbefore (happlied.2 htrue),
          Bool.not_false, if_pos rfl]
        omega
    rw [hcount] at hrunRest
    rw [reconcileEach, Session.run_bind_of_run hrun]
    refine ⟨counted, sent ++ more, after, ?_, harranged.cons harrangedRest hne, fun hbefore => ?_⟩
    · dsimp only
      rw [hrunRest]
    · obtain ⟨hbefore, hbeforeRest⟩ := List.forall_mem_cons.1 hbefore
      refine List.forall_mem_append.2 ⟨hsent hbefore, hmore fun other hmem => ?_⟩
      rw [hsame other hmem]
      exact hbeforeRest other hmem

/-! ### A round whatever the answers are -/

/-- Descriptors are made right one after the other: what is sent, and how the answering side goes
from one state to another. -/
inductive MadeRight {σ : Type} (serve : σ → Request → Reply × σ) :
    σ → List Descriptor → List Request → σ → Prop
  | nil (state : σ) : MadeRight serve state [] [] state
  | cons {state middle after : σ} {descriptor : Descriptor} {rest : List Descriptor}
      {applied : Applied} {sent more : List Request} :
      (descriptor.reconcile service caBundle).run serve state = (.ok applied, sent, middle) →
      MadeRight serve middle rest more after →
      MadeRight serve state (descriptor :: rest) (sent ++ more) after

def countedRight (metrics : Metrics) (descriptors : List Descriptor) : Metrics :=
  descriptors.foldl (fun metrics descriptor => metrics.recordReconciliation descriptor.name) metrics

theorem count_countedRight (metrics : Metrics) (descriptors : List Descriptor) (name : String) :
    (countedRight metrics descriptors).reconciliations.count name =
      metrics.reconciliations.count name + (descriptors.map (·.name)).count name := by
  induction descriptors generalizing metrics with
  | nil => rfl
  | cons descriptor rest ih =>
    have hfirst : (metrics.recordReconciliation descriptor.name).reconciliations.count name =
        metrics.reconciliations.count name + if name = descriptor.name then 1 else 0 :=
      Tally.count_increment _ _ _
    rw [countedRight, List.foldl_cons, ← countedRight, ih, hfirst, List.map_cons, List.count_cons]
    by_cases h : name = descriptor.name
    · rw [if_pos h, if_pos (by simpa using h.symm)]
      omega
    · rw [if_neg h, if_neg (by simpa using Ne.symm h)]
      omega

theorem reconciliationErrors_countedRight (metrics : Metrics) (descriptors : List Descriptor) :
    (countedRight metrics descriptors).reconciliationErrors = metrics.reconciliationErrors := by
  induction descriptors generalizing metrics with
  | nil => rfl
  | cons descriptor rest ih => exact ih (metrics.recordReconciliation descriptor.name)

/-- **A round goes through, or ends at the first descriptor that fails.** -/
theorem reconcileEach_cases {σ : Type} (serve : σ → Request → Reply × σ) (state : σ)
    (descriptors : List Descriptor) (written : Nat) (metrics : Metrics) :
    let run := (reconcileEach service caBundle written metrics descriptors).run serve state
    ((∃ number, run.1 = (.ok number, countedRight metrics descriptors)) ∧
        MadeRight service caBundle serve state descriptors run.2.1 run.2.2) ∨
      ∃ earlier failing later sent middle error more,
        descriptors = earlier ++ failing :: later ∧
        MadeRight service caBundle serve state earlier sent middle ∧
        (failing.reconcile service caBundle).run serve middle = (.error error, more, run.2.2) ∧
        run.2.1 = sent ++ more ∧
        run.1 = (.error error,
          (countedRight metrics earlier).recordReconciliationError failing.name) := by
  induction descriptors generalizing state written metrics with
  | nil => exact Or.inl ⟨⟨written, rfl⟩, .nil state⟩
  | cons descriptor rest ih =>
    rcases hrun : (descriptor.reconcile service caBundle).run serve state with
      ⟨result, sent, middle⟩
    rw [reconcileEach, Session.run_bind_of_run hrun]
    cases result with
    | error error =>
      refine Or.inr ⟨[], descriptor, rest, [], state, error, sent, rfl, .nil state, hrun, ?_, rfl⟩
      exact List.append_nil sent
    | ok applied =>
      rcases ih middle (if applied = .unchanged then written else written + 1)
          (metrics.recordReconciliation descriptor.name) with
        ⟨⟨number, hresult⟩, hright⟩ |
        ⟨earlier, failing, later, sentEarlier, before, error, more, rfl, hearlier, hfailing, hsent,
          hresult⟩
      · exact Or.inl ⟨⟨number, hresult⟩, .cons hrun hright⟩
      · refine Or.inr ⟨descriptor :: earlier, failing, later, sent ++ sentEarlier, before, error,
          more, rfl, .cons hrun hearlier, hfailing, ?_, hresult⟩
        rw [List.append_assoc, ← hsent]

end

namespace Registry

variable {descriptors : List Descriptor} {registry : Registry}

/-- **A round converges, and the next one rests.**  On a store that nobody else changes, a round
counts the objects that were missing or not converged, leaves all objects of the descriptors
converged and the others as they were, and the next round only reads and writes nothing.  Whatever
the answers are, a round goes through or ends at the first descriptor that fails, with its error;
then nothing was sent for a later one, and each earlier one is counted once and the error once. -/
theorem reconcileAll_converges (h : ofList descriptors = .ok registry) (service : ServiceTarget)
    (caBundle : List UInt8) (metrics : Metrics) :
    (∀ store : Store, store.Consistent → (∀ descriptor ∈ descriptors, descriptor.IsNamed) →
      ∃ counted requests after,
        (registry.reconcileAll service caBundle metrics).run Store.serve store =
          ((.ok (descriptors.countP (!·.isRegistered service caBundle store)), counted), requests,
            after) ∧
        (∀ descriptor ∈ descriptors, descriptor.isRegistered service caBundle after = true) ∧
        (∀ kind name,
          (∀ descriptor ∈ descriptors, descriptor.kind = kind → descriptor.name ≠ name) →
            after.find? kind name = store.find? kind name) ∧
        ∀ metrics' : Metrics, ∃ recounted reads,
          (registry.reconcileAll service caBundle metrics').run Store.serve after =
            ((.ok 0, recounted), reads, after) ∧
          ∀ request ∈ reads, request.method = .get) ∧
    ∀ {σ : Type} (serve : σ → Request → Reply × σ) (state : σ),
      let run := (registry.reconcileAll service caBundle metrics).run serve state
      (∃ number, run.1 = (.ok number, countedRight metrics descriptors) ∧
        MadeRight service caBundle serve state descriptors run.2.1 run.2.2) ∨
      ∃ earlier failing later sent middle error more,
        descriptors = earlier ++ failing :: later ∧
        MadeRight service caBundle serve state earlier sent middle ∧
        (failing.reconcile service caBundle).run serve middle = (.error error, more, run.2.2) ∧
        run.2.1 = sent ++ more ∧
        run.1.1 = .error error ∧
        (∀ name, run.1.2.reconciliations.count name = metrics.reconciliations.count name +
          if name ∈ earlier.map (·.name) then 1 else 0) ∧
        ∀ name, run.1.2.reconciliationErrors.count name =
          metrics.reconciliationErrors.count name + if name = failing.name then 1 else 0 := by
  obtain ⟨hdescriptors, hnodup⟩ := nodup_names_of_ofList h
  subst hdescriptors
  refine ⟨fun store hstore hnamed => ?_, fun serve state => ?_⟩
  · obtain ⟨counted, requests, after, hrun, hafter, -⟩ :=
      run_reconcileEach service caBundle hnamed hnodup 0 metrics hstore
    rw [Nat.zero_add] at hrun
    refine ⟨counted, requests, after, hrun, hafter.registered, hafter.others, fun metrics' => ?_⟩
    obtain ⟨recounted, reads, last, hrerun, hlast, hreads⟩ :=
      run_reconcileEach service caBundle hnamed hnodup 0 metrics' hafter.consistent
    obtain rfl := hlast.rests hafter.registered
    have hzero : registry.descriptors.countP (!·.isRegistered service caBundle last) = 0 := by
      refine List.countP_eq_zero.2 fun descriptor hmem => ?_
      rw [hafter.registered descriptor hmem]
      exact Bool.false_ne_true
    rw [hzero] at hrerun
    exact ⟨recounted, reads, hrerun, hreads hafter.registered⟩
  · rcases reconcileEach_cases service caBundle serve state registry.descriptors 0 metrics with
      ⟨⟨number, hresult⟩, hright⟩ |
      ⟨earlier, failing, later, sent, middle, error, more, hsplit, hearlier, hfailing, hsent,
        hresult⟩
    · exact Or.inl ⟨number, hresult, hright⟩
    · have hnodupEarlier : (earlier.map (·.name)).Nodup := by
        rw [hsplit, List.map_append] at hnodup
        exact (List.nodup_append.1 hnodup).1
      refine Or.inr ⟨earlier, failing, later, sent, middle, error, more, hsplit, hearlier, hfailing,
        hsent, congrArg Prod.fst hresult, fun name => ?_, fun name => ?_⟩
      · have hmetrics := congrArg (·.2.reconciliations.count name) hresult
        refine hmetrics.trans ?_
        rw [← hnodupEarlier.count]
        exact count_countedRight metrics earlier name
      · have hmetrics := congrArg (·.2.reconciliationErrors.count name) hresult
        refine hmetrics.trans ?_
        rw [← reconciliationErrors_countedRight metrics earlier]
        exact Tally.count_increment _ _ _

/-- The webhooks of the operator on an empty store: three objects are made, and the next round only
reads. -/
theorem reconcileAll_converges_standard :
    ∃ registry counted requests after recounted reads,
      standard true = .ok registry ∧
      (registry.reconcileAll ⟨"ibm-common-services", "webhook", 443⟩ [1] {}).run Store.serve {} =
        ((.ok 3, counted), requests, after) ∧
      (registry.reconcileAll ⟨"ibm-common-services", "webhook", 443⟩ [1] {}).run Store.serve after =
        ((.ok 0, recounted), reads, after) ∧
      ∀ request ∈ reads, request.method = .get := by
  have hregistry : ofList [Descriptor.podPreset, Descriptor.operandRequest,
      Descriptor.namespaceMapping] = .ok ⟨[Descriptor.podPreset, Descriptor.operandRequest,
        Descriptor.namespaceMapping]⟩ := by
    rfl
  have hnamed : ∀ descriptor ∈ [Descriptor.podPreset, Descriptor.operandRequest,
      Descriptor.namespaceMapping], descriptor.IsNamed := by
    decide +kernel
  obtain ⟨hstore, -⟩ := reconcileAll_converges hregistry
    ⟨"ibm-common-services", "webhook", 443⟩ [1] {}
  obtain ⟨counted, requests, after, hrun, -, -, hrest⟩ := hstore {} Store.consistent_empty hnamed
  obtain ⟨recounted, reads, hrerun, hreads⟩ := hrest {}
  exact ⟨_, counted, requests, after, recounted, reads, hregistry, hrun, hrerun, hreads⟩

/-- On an empty store a round fails that starts with such a name, whatever comes later. -/
theorem exists_error_of_not_isNamed {descriptor : Descriptor} (h : ¬descriptor.IsNamed)
    (later : List Descriptor) (service : ServiceTarget) (caBundle : List UInt8)
    (metrics : Metrics) :
    ∃ error, (((⟨descriptor :: later⟩ : Registry).reconcileAll service caBundle metrics).run
      Store.serve {}).1.1 = .error error := by
  rcases hrun : (descriptor.reconcile service caBundle).run Store.serve {} with
    ⟨result, requests, after⟩
  obtain ⟨error, herror⟩ := Descriptor.exists_error_of_not_isNamed h service caBundle
  rw [hrun] at herror
  obtain rfl : result = .error error := herror
  rw [reconcileAll, reconcileEach, Session.run_bind_of_run hrun]
  exact ⟨error, rfl⟩

/-- A registry takes descriptors whose names no path ends in, and no object can be made for them: of
the empty name, of one that means another segment, of one that is more than a segment or ends
earlier, and of one with a blank. -/
theorem reconcileAll_nameless :
    let service : ServiceTarget := ⟨"ibm-common-services", "webhook", 443⟩
    ["", ".", "..", "a/b", "a%62", "a?b", "a#b", "a b"].Forall fun name =>
      let nameless := { Descriptor.podPreset with name := name }
      ofList [nameless] = .ok ⟨[nameless]⟩ ∧
        nameless.isRegistered service [1] {} = false ∧
        ∃ error, (((⟨[nameless]⟩ : Registry).reconcileAll service [1] {}).run Store.serve {}).1.1 =
          .error error := by
  have hunnamed : ∀ name ∈ ["", ".", "..", "a/b", "a%62", "a?b", "a#b", "a b"],
      ¬{ Descriptor.podPreset with name := name }.IsNamed := by
    decide +kernel
  refine List.forall_iff_forall_mem.2 fun name hmem => ⟨rfl, rfl, ?_⟩
  exact exists_error_of_not_isNamed (hunnamed name hmem) [] ⟨"ibm-common-services", "webhook", 443⟩
    [1] {}

end Registry

end WebhookOperator
