import WebhookOperator.Proofs.Codec.Carried
import WebhookOperator.Proofs.Codec.Cluster
import WebhookOperator.Proofs.Injection.Ledger
import WebhookOperator.Proofs.Injection.Outcome

/-!
# What an injection carries over

An injection is worked out on values, and its patch is performed on the document that the pod was
read from.  Here it is followed down to the lists that grow: every part of an injected pod is carried
over to the document, and the patch adds under the keys of these lists.  The one thing that it
replaces is an annotation that remembers an older version of a preset.

* `Slot.Carries.settle`: a list with what has been merged into it
* `Container.carries_injected`, `PodSpec.carries_injected`: containers and the content of a pod
* `Pod.carries_remember`: metadata that remembers presets
-/

namespace WebhookOperator

open Json Merge

/-! ### Lists -/

/-- A list with new items at its end, or an absent one that gets some. -/
theorem Slot.Carries.settle {α : Type} {codec : Codec α} {scope : Operation → Prop} {key : String}
    {held : Option Json} (h : codec.Lawful) (hadd : ∀ rest value, scope (.add ⟨key :: rest⟩ value))
    (hheld : ∀ document ∈ held, document.Sorted) {field : Option (List α)}
    (hread : (Slot.optional codec.list).read held = some field) (added : List α) :
    (Slot.optional codec.list).Carries scope key held field
      (settle field (listed field ++ added)) := by
  rw [WebhookOperator.settle]
  split
  · exact .same (.optional h.list) hread
  · cases field with
    | none => exact .put h.list held _ (hadd [] _)
    | some items =>
      exact .optional rfl hheld hread (Codec.Carries.append h items added fun position value =>
        hadd [Nat.repr position] value)

/-! ### Containers -/

theorem Container.carries_injected {scope : Operation → Prop} (container : Container)
    (presets : List PodPreset)
    (hadd : ∀ key ∈ ["env", "volumeMounts", "envFrom"], ∀ rest value,
      scope (.add ⟨key :: rest⟩ value)) :
    Container.codec.Carries scope container (container.injected presets) := by
  refine .object Container.lawful fun held hsorted hread => ?_
  simp only [Record.read_field, Record.of, Option.bind_eq_some_iff, Option.map_eq_some_iff] at hread
  obtain ⟨_, ⟨_, ⟨_, ⟨_, ⟨_, ⟨_, ⟨_, ⟨_, ⟨_, ⟨_, ⟨_, hmake, args, hargs, rfl⟩,
    command, hcommand, rfl⟩, env, henv, rfl⟩, envFrom, henvFrom, rfl⟩, image, himage, rfl⟩,
    imagePullPolicy, himagePullPolicy, rfl⟩, name, hname, rfl⟩, ports, hports, rfl⟩,
    resources, hresources, rfl⟩, volumeMounts, hvolumeMounts, rfl⟩, workingDir, hworkingDir, rfl⟩ :=
    hread
  cases hmake
  have hsorted (key : String) : ∀ document ∈ held.lookup key, document.Sorted :=
    fun _ hdocument => sorted_of_lookup hsorted hdocument
  exact (Record.Carries.of _ _ _ _ _)
    |>.same (.optional (.list .string)) hargs
    |>.same (.optional (.list .string)) hcommand
    |>.field (.optional (.list EnvVar.lawful))
      (.settle EnvVar.lawful (hadd "env" (by decide)) (hsorted "env") henv _)
    |>.field (.optional (.list EnvFromSource.lawful))
      (.settle EnvFromSource.lawful (hadd "envFrom" (by decide)) (hsorted "envFrom") henvFrom _)
    |>.same (.optional .string) himage
    |>.same (.optional .string) himagePullPolicy
    |>.same .text hname
    |>.same (.optional (.list ContainerPort.lawful)) hports
    |>.same (.optional ResourceRequirements.lawful) hresources
    |>.field (.optional (.list VolumeMount.lawful))
      (.settle VolumeMount.lawful (hadd "volumeMounts" (by decide)) (hsorted "volumeMounts")
        hvolumeMounts _)
    |>.same (.optional .string) hworkingDir

/-! ### Pods -/

theorem DnsConfig.carries_reopen {scope : Operation → Prop} (config : DnsConfig)
    (hadd : ∀ rest value, scope (.add ⟨"options" :: rest⟩ value)) :
    DnsConfig.codec.Carries scope config config.reopen := by
  by_cases hmem : singleRequestReopen ∈ listed config.options
  · rw [reopen_of_mem hmem]
    exact .same DnsConfig.lawful config
  · have hreopen : config.reopen = { config with
        options := settle config.options (listed config.options ++ [singleRequestReopen]) } := by
      rw [reopen, if_neg hmem, settle, if_neg (by simp)]
    rw [hreopen]
    refine .object DnsConfig.lawful fun held hsorted hread => ?_
    simp only [Record.read_field, Record.of, Option.bind_eq_some_iff, Option.map_eq_some_iff] at hread
    obtain ⟨_, ⟨_, ⟨_, hmake, nameservers, hnameservers, rfl⟩, options, hoptions, rfl⟩, searches,
      hsearches, rfl⟩ := hread
    cases hmake
    have hsorted : ∀ document ∈ held.lookup "options", document.Sorted :=
      fun _ hdocument => sorted_of_lookup hsorted hdocument
    exact (Record.Carries.of _ _ _ _ _)
      |>.same (.optional (.list .string)) hnameservers
      |>.field (.optional (.list DnsOption.lawful))
        (.settle DnsOption.lawful hadd hsorted hoptions _)
      |>.same (.optional (.list .string)) hsearches

/-- Where the resolver's option is put: among the options, or with the whole configuration. -/
def PodSpec.dnsSite (spec : PodSpec) : List String :=
  if spec.dnsConfig.isNone then ["dnsConfig"] else ["dnsConfig", "options"]

theorem PodSpec.carries_reopened {scope : Operation → Prop} {spec : PodSpec} {held : Option Json}
    (hadd : ∀ rest value, scope (.add ⟨spec.dnsSite ++ rest⟩ value))
    (hheld : ∀ document ∈ held, document.Sorted)
    (hread : (Slot.optional DnsConfig.codec).read held = some spec.dnsConfig) :
    (Slot.optional DnsConfig.codec).Carries scope "dnsConfig" held spec.dnsConfig spec.reopened := by
  rw [reopened]
  split
  · cases hconfig : spec.dnsConfig with
    | none =>
      rw [dnsSite, hconfig] at hadd
      exact .put DnsConfig.lawful held _ (hadd [] _)
    | some config =>
      rw [dnsSite, hconfig] at hadd
      rw [hconfig] at hread
      exact .optional rfl hheld hread (config.carries_reopen hadd)
  · exact .same (.optional DnsConfig.lawful) hread

theorem PodSpec.carries_injected {scope : Operation → Prop} (spec : PodSpec)
    (presets : List PodPreset) (haddVolumes : ∀ rest value, scope (.add ⟨"volumes" :: rest⟩ value))
    (haddDns : ∀ rest value, scope (.add ⟨spec.dnsSite ++ rest⟩ value))
    (haddInside : ∀ position < spec.containers.length, ∀ key ∈ ["env", "volumeMounts", "envFrom"],
      ∀ rest value, scope (.add ⟨"containers" :: Nat.repr position :: key :: rest⟩ value)) :
    PodSpec.codec.Carries scope spec (spec.injected presets) := by
  refine .object PodSpec.lawful fun held hsorted hread => ?_
  simp only [Record.read_field, Record.of, Option.bind_eq_some_iff, Option.map_eq_some_iff] at hread
  obtain ⟨_, ⟨_, ⟨_, ⟨_, ⟨_, ⟨_, ⟨_, ⟨_, ⟨_, ⟨_, ⟨_, hmake, containers, hcontainers, rfl⟩,
    dnsConfig, hdnsConfig, rfl⟩, dnsPolicy, hdnsPolicy, rfl⟩, hostNetwork, hhostNetwork, rfl⟩,
    initContainers, hinitContainers, rfl⟩, nodeSelector, hnodeSelector, rfl⟩,
    restartPolicy, hrestartPolicy, rfl⟩, serviceAccountName, hserviceAccountName, rfl⟩,
    terminationGracePeriodSeconds, hterminationGracePeriodSeconds, rfl⟩,
    tolerations, htolerations, rfl⟩, volumes, hvolumes, rfl⟩ := hread
  cases hmake
  have hsorted (key : String) : ∀ document ∈ held.lookup key, document.Sorted :=
    fun _ hdocument => sorted_of_lookup hsorted hdocument
  have hinside : (Codec.list Container.codec).Carries
      (fun operation => scope (operation.within ["containers"])) containers
      (containers.map (·.injected presets)) := by
    refine .map Container.lawful containers _ fun position container hcontainer => ?_
    have hlt : position < containers.length := (List.getElem?_eq_some_iff.1 hcontainer).1
    exact container.carries_injected presets fun key hkey rest value =>
      haddInside position hlt key hkey rest value
  have hnil : containers = [] → containers.map (·.injected presets) = [] := fun h => by rw [h]; rfl
  exact (Record.Carries.of _ _ _ _ _)
    |>.field (.expected (.list Container.lawful) [])
      (.expected (.list Container.lawful) rfl hnil (hsorted "containers") hcontainers hinside)
    |>.field (.optional DnsConfig.lawful)
      (PodSpec.carries_reopened haddDns (hsorted "dnsConfig") hdnsConfig)
    |>.same (.optional .string) hdnsPolicy
    |>.same (.optional .bool) hhostNetwork
    |>.same (.optional (.list Container.lawful)) hinitContainers
    |>.same (.optional (.dict .string)) hnodeSelector
    |>.same (.optional .string) hrestartPolicy
    |>.same (.optional .string) hserviceAccountName
    |>.same (.optional .int64) hterminationGracePeriodSeconds
    |>.same (.optional (.list Toleration.lawful)) htolerations
    |>.field (.optional (.list Volume.lawful))
      (.settle Volume.lawful haddVolumes (hsorted "volumes") hvolumes _)

/-! ### Metadata -/

theorem Pod.carries_annotations {scope : Operation → Prop} {metadata : ObjectMeta}
    {presets : List PodPreset} {held : Option Json}
    (hadd : ∀ rest value, scope (.add ⟨"annotations" :: rest⟩ value))
    (hreplace : ∀ preset ∈ presets, ∀ value,
      scope (.replace ⟨["annotations", preset.appliedKey]⟩ value))
    (hheld : ∀ document ∈ held, document.Sorted)
    (hread : (Slot.optional (.dict .string)).read held = some metadata.annotations) :
    (Slot.optional (.dict .string)).Carries scope "annotations" held metadata.annotations
      (remember metadata presets).annotations := by
  by_cases hnil : presets = []
  · subst hnil
    exact .same (.optional (.dict .string)) hread
  · obtain ⟨after, hafter⟩ := Option.isSome_iff_exists.1 (annotations_remember_isSome hnil metadata)
    have hget := ObjectMeta.annotation?_eq_get? hafter
    rw [hafter]
    cases hbefore : metadata.annotations with
    | none => exact .put (.dict .string) held after (hadd [] _)
    | some before =>
      have hgetBefore := ObjectMeta.annotation?_eq_get? hbefore
      rw [hbefore] at hread
      refine .optional rfl hheld hread (.strings (fun key hkey => ?_) (fun key => hadd [key])
        fun key hne => ?_)
      · rw [← hgetBefore] at hkey
        rw [← hget, annotation?_remember, Option.isSome_or, hkey, Bool.or_true]
      · -- an annotation that changes is that of a preset
        by_cases hkey : ∃ preset ∈ presets, preset.appliedKey = key
        · obtain ⟨preset, hmem, rfl⟩ := hkey
          exact hreplace preset hmem
        · refine absurd ?_ hne
          rw [← hget, ← hgetBefore, annotation?_remember_of_ne]
          exact fun preset hmem heq => hkey ⟨preset, hmem, heq⟩

/-- Metadata whose annotations change, and nothing else. -/
theorem ObjectMeta.carries_annotations {scope : Operation → Prop} {metadata : ObjectMeta}
    {after : Option (Dict String)}
    (h : ∀ held : Option Json, (∀ document ∈ held, document.Sorted) →
      (Slot.optional (.dict .string)).read held = some metadata.annotations →
      (Slot.optional (.dict .string)).Carries scope "annotations" held metadata.annotations after) :
    ObjectMeta.codec.Carries scope metadata { metadata with annotations := after } := by
  refine .object ObjectMeta.lawful fun held hsorted hread => ?_
  simp only [Fields.field, Fields.of, Record.read_field, Record.of, Option.bind_eq_some_iff,
    Option.map_eq_some_iff] at hread
  obtain ⟨_, ⟨_, ⟨_, ⟨_, ⟨_, ⟨_, ⟨_, ⟨_, ⟨_, ⟨_, ⟨_, ⟨_, ⟨_, ⟨_, ⟨_, hmake,
    annotations, hannotations, rfl⟩, creationTimestamp, hcreationTimestamp, rfl⟩,
    deletionGracePeriodSeconds, hdeletionGracePeriodSeconds, rfl⟩,
    deletionTimestamp, hdeletionTimestamp, rfl⟩, finalizers, hfinalizers, rfl⟩,
    generateName, hgenerateName, rfl⟩, generation, hgeneration, rfl⟩, labels, hlabels, rfl⟩,
    managedFields, hmanagedFields, rfl⟩, name, hname, rfl⟩, namespaceName, hnamespaceName, rfl⟩,
    ownerReferences, hownerReferences, rfl⟩, resourceVersion, hresourceVersion, rfl⟩,
    selfLink, hselfLink, rfl⟩, uid, huid, rfl⟩ := hread
  cases hmake
  have hcarries := h (held.lookup "annotations")
    (fun _ hdocument => sorted_of_lookup hsorted hdocument) hannotations
  exact (Record.Carries.of _ _ _ _ _)
    |>.field (.optional (.dict .string)) hcarries
    |>.same Part.Sound.lawful hcreationTimestamp
    |>.same Part.Sound.lawful hdeletionGracePeriodSeconds
    |>.same Part.Sound.lawful hdeletionTimestamp
    |>.same Part.Sound.lawful hfinalizers
    |>.same Part.Sound.lawful hgenerateName
    |>.same Part.Sound.lawful hgeneration
    |>.same Part.Sound.lawful hlabels
    |>.same Part.Sound.lawful hmanagedFields
    |>.same Part.Sound.lawful hname
    |>.same Part.Sound.lawful hnamespaceName
    |>.same Part.Sound.lawful hownerReferences
    |>.same Part.Sound.lawful hresourceVersion
    |>.same Part.Sound.lawful hselfLink
    |>.same Part.Sound.lawful huid

theorem Pod.carries_remember {scope : Operation → Prop} (metadata : ObjectMeta)
    (presets : List PodPreset) (hadd : ∀ rest value, scope (.add ⟨"annotations" :: rest⟩ value))
    (hreplace : ∀ preset ∈ presets, ∀ value,
      scope (.replace ⟨["annotations", preset.appliedKey]⟩ value)) :
    ObjectMeta.codec.Carries scope metadata (remember metadata presets) := by
  rw [remember_eq]
  exact ObjectMeta.carries_annotations fun _ hheld hread =>
    carries_annotations hadd hreplace hheld hread

end WebhookOperator
