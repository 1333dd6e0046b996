import WebhookOperator.Proofs.Admission.Object
import WebhookOperator.Proofs.Injection.Carrying
import WebhookOperator.Proofs.Injection.Matching
import WebhookOperator.Proofs.Json.Reading

/-!
# The patch of an injection

The patch of an injection is the difference of two pods as they are written.  The document that the
cluster holds is another one: it may have members that no pod has, members that are null, and none
where a pod is written with a default.  This file says that the patch fits it all the same.

A handler reads the pod either from the document as it stands or by way of an object of any kind,
which passes over a part of a kind that is not whole.  `Pod.readers` are these two ways, and
`Pod.Held` is what both of them find.

* `held_of_read`, `read_of_held`: what is read, apart from the kind, is what the members say
* `exists_leads_injected`: the patch of an injection, on what the pod was read from
* `Writes.staysIn`: what the patch does outside the sites of the pod, namely nothing
* `perform?_patch`: performed on the document, the patch gives the injected pod and leaves every
  other place alone
-/

namespace WebhookOperator

open AnyObject Json

/-! ### Reading a pod -/

namespace Pod

/-- What a pod is read from, beside its kind. -/
structure Held (members : Entries Json) (pod : Pod) : Prop where
  metadata : ∃ document, members.lookup "metadata" = some document ∧
    ObjectMeta.codec.decode document = some pod.metadata
  spec : (Slot.optional PodSpec.codec).read (members.lookup "spec") = some pod.spec
  status : (Slot.optional PodStatus.codec).read (members.lookup "status") = some pod.status

theorem read_record_iff {look : String → Option Json} {pod : Pod} :
    record.read look = some pod ↔
      (Slot.expected ObjectMeta.codec {}).read (look "metadata") = some pod.metadata ∧
      (Slot.optional PodSpec.codec).read (look "spec") = some pod.spec ∧
      (Slot.optional PodStatus.codec).read (look "status") = some pod.status := by
  simp only [record, Record.read_field, Record.of, Option.bind_eq_some_iff, Option.map_eq_some_iff]
  constructor
  · rintro ⟨_, ⟨_, ⟨_, hmake, metadata, hmetadata, rfl⟩, spec, hspec, rfl⟩, status, hstatus, rfl⟩
    cases hmake
    exact ⟨hmetadata, hspec, hstatus⟩
  · rintro ⟨hmetadata, hspec, hstatus⟩
    exact ⟨_, ⟨_, ⟨_, rfl, _, hmetadata, rfl⟩, _, hspec, rfl⟩, _, hstatus, rfl⟩

theorem decode_obj_iff {members : Entries Json} {pod : Pod} :
    codec.decode (.obj members) = some pod ↔
      ((members.lookup "apiVersion").all (· = .str "v1") ∧
        (members.lookup "kind").all (· = .str "Pod")) ∧
      (Slot.expected ObjectMeta.codec {}).read (members.lookup "metadata") = some pod.metadata ∧
      (Slot.optional PodSpec.codec).read (members.lookup "spec") = some pod.spec ∧
      (Slot.optional PodStatus.codec).read (members.lookup "status") = some pod.status := by
  simp only [codec, Codec.resource, Codec.kindMembers, List.all_cons, List.all_nil, Bool.and_true,
    Bool.and_eq_true, Option.ite_none_right_eq_some]
  exact and_congr_right fun _ => read_record_iff

/-- The ways to read the pod of a document: as it stands, and by way of an object of any kind, as a
handler reads it. -/
def readers : List (Json → Option Pod) :=
  [codec.decode, fun document =>
    (AnyObject.codec.decode document).bind fun object => codec.decode (AnyObject.codec.encode object)]

theorem anyObject_decode {members : Entries Json} {document : Json}
    (h : members.lookup "metadata" = some document) :
    (AnyObject.codec.decode (.obj members)).bind (fun object =>
        codec.decode (AnyObject.codec.encode object)) =
      (ObjectMeta.codec.decode document).bind fun metadata =>
        codec.decode (.obj (passed members metadata)) := by
  simp only [AnyObject.codec, h]
  cases ObjectMeta.codec.decode document <;> rfl

theorem decode_passed_iff {members : Entries Json} {metadata : ObjectMeta} {pod : Pod} :
    codec.decode (.obj (passed members metadata)) = some pod ↔
      (((AnyObject.dropPartialKind members).lookup "apiVersion").all (· = .str "v1") ∧
        ((AnyObject.dropPartialKind members).lookup "kind").all (· = .str "Pod")) ∧
      metadata = pod.metadata ∧
      (Slot.optional PodSpec.codec).read (members.lookup "spec") = some pod.spec ∧
      (Slot.optional PodStatus.codec).read (members.lookup "status") = some pod.status := by
  have hmetadata : (Slot.expected ObjectMeta.codec {}).read
      ((passed members metadata).lookup "metadata") = some metadata := by
    rw [lookup_passed_metadata]
    exact (Slot.Lawful.expected ObjectMeta.lawful {}).read_write metadata
  have hspec : (passed members metadata).lookup "spec" = members.lookup "spec" :=
    lookup_passed members metadata (by decide) (by decide) (by decide)
  have hstatus : (passed members metadata).lookup "status" = members.lookup "status" :=
    lookup_passed members metadata (by decide) (by decide) (by decide)
  have hapiVersion : (passed members metadata).lookup "apiVersion" =
      (AnyObject.dropPartialKind members).lookup "apiVersion" :=
    lookup_passed_of_ne members metadata (by decide)
  have hkind : (passed members metadata).lookup "kind" =
      (AnyObject.dropPartialKind members).lookup "kind" :=
    lookup_passed_of_ne members metadata (by decide)
  rw [decode_obj_iff, hmetadata, hspec, hstatus, hapiVersion, hkind, Option.some.injEq]

theorem held_of_read {read : Json → Option Pod} (hreader : read ∈ readers) {members : Entries Json}
    {metadata : List (String × Json)} (hmetadata : members.lookup "metadata" = some (.obj metadata))
    {pod : Pod} (h : read (.obj members) = some pod) : Held members pod := by
  rcases List.mem_pair.1 hreader with rfl | rfl
  · obtain ⟨_, hread, hspec, hstatus⟩ := decode_obj_iff.1 h
    rw [hmetadata] at hread
    exact ⟨⟨_, hmetadata, hread⟩, hspec, hstatus⟩
  · have h := (anyObject_decode hmetadata).symm.trans h
    obtain ⟨found, hfound, h⟩ := Option.bind_eq_some_iff.1 h
    obtain ⟨_, rfl, hspec, hstatus⟩ := decode_passed_iff.1 h
    exact ⟨⟨_, hmetadata, hfound⟩, hspec, hstatus⟩

/-- Whoever has read a pod from a document reads another one from a document of the same kind. -/
theorem read_of_held {read : Json → Option Pod} (hreader : read ∈ readers)
    {members changed : Entries Json} {metadata : List (String × Json)}
    (hmetadata : members.lookup "metadata" = some (.obj metadata)) {pod other : Pod}
    (h : read (.obj members) = some pod)
    (hapiVersion : changed.lookup "apiVersion" = members.lookup "apiVersion")
    (hkind : changed.lookup "kind" = members.lookup "kind") (hheld : Held changed other) :
    read (.obj changed) = some other := by
  obtain ⟨document, hdocument, hdecode⟩ := hheld.metadata
  rcases List.mem_pair.1 hreader with rfl | rfl
  · obtain ⟨hfits, _⟩ := decode_obj_iff.1 h
    refine decode_obj_iff.2 ⟨?_, ?_, hheld.spec, hheld.status⟩
    · rw [hapiVersion, hkind]
      exact hfits
    · rw [hdocument]
      exact Slot.read_expected rfl hdecode
  · have h := (anyObject_decode hmetadata).symm.trans h
    obtain ⟨found, _, h⟩ := Option.bind_eq_some_iff.1 h
    obtain ⟨hfits, _⟩ := decode_passed_iff.1 h
    refine (anyObject_decode hdocument).trans ?_
    rw [hdecode, Option.bind_some]
    refine decode_passed_iff.2 ⟨?_, rfl, hheld.spec, hheld.status⟩
    rw [lookup_dropPartialKind_congr hapiVersion hkind (.inl rfl),
      lookup_dropPartialKind_congr hapiVersion hkind (.inr rfl)]
    exact hfits

/-! ### Injected pods -/

/-- Where an injection writes into a pod. -/
def sites (pod : Pod) : List (List String) :=
  ["metadata", "annotations"] ::
    match pod.spec with
    | none => []
    | some spec => ["spec", "volumes"] :: ("spec" :: spec.dnsSite) ::
      (List.range spec.containers.length).flatMap fun position =>
        ["env", "volumeMounts", "envFrom"].map fun key =>
          ["spec", "containers", Nat.repr position, key]

theorem carries_spec {scope : Operation → Prop} {pod : Pod} (presets : List PodPreset)
    (hadd : ∀ site ∈ pod.sites, ∀ rest value, scope (.add ⟨site ++ rest⟩ value))
    {held : Option Json} (hheld : ∀ document ∈ held, document.Sorted)
    (hread : (Slot.optional PodSpec.codec).read held = some pod.spec) :
    (Slot.optional PodSpec.codec).Carries scope "spec" held pod.spec (pod.injected presets).spec := by
  rw [injected]
  cases hspec : pod.spec with
  | none =>
    rw [hspec] at hread
    exact .same (.optional PodSpec.lawful) hread
  | some spec =>
    rw [hspec] at hread
    rw [sites, hspec] at hadd
    have hvolumes : ∀ rest value, scope (.add ⟨"spec" :: "volumes" :: rest⟩ value) :=
      hadd ["spec", "volumes"] (by simp)
    have hdns : ∀ rest value, scope (.add ⟨"spec" :: (spec.dnsSite ++ rest)⟩ value) :=
      hadd ("spec" :: spec.dnsSite) (by simp)
    refine .optional rfl hheld hread (spec.carries_injected _ hvolumes hdns ?_)
    intro position hlt key hkey
    refine hadd ["spec", "containers", Nat.repr position, key] ?_
    refine List.mem_cons_of_mem _ (List.mem_cons_of_mem _ (List.mem_cons_of_mem _ ?_))
    exact List.mem_flatMap.2 ⟨position, List.mem_range.2 hlt, List.mem_map_of_mem hkey⟩

/-- The operation adds at a site of the pod, or it replaces the annotation of a preset. -/
def Writes (pod : Pod) (presets : List PodPreset) (operation : Operation) : Prop :=
  (∃ site ∈ pod.sites, ∃ rest value, operation = .add ⟨site ++ rest⟩ value) ∨
    ∃ preset ∈ presets, ∃ value,
      operation = .replace ⟨["metadata", "annotations", preset.appliedKey]⟩ value

theorem carries_injected {pod : Pod} (presets : List PodPreset) {members : Entries Json}
    (hsorted : (Json.obj members).Sorted) (hheld : Held members pod) :
    record.Carries id (Writes pod presets) (members.lookup ·) pod (pod.injected presets) := by
  have hadd : ∀ site ∈ pod.sites, ∀ rest value, Writes pod presets (.add ⟨site ++ rest⟩ value) :=
    fun site hsite rest value => Or.inl ⟨site, hsite, rest, value, rfl⟩
  obtain ⟨document, hdocument, hdecode⟩ := hheld.metadata
  have hmetadata : (Slot.expected ObjectMeta.codec {}).Carries (Writes pod presets) "metadata"
      (members.lookup "metadata") pod.metadata (pod.injected presets).metadata := by
    rw [hdocument]
    refine .expected_some rfl (sorted_of_lookup hsorted hdocument) hdecode ?_
    exact carries_remember pod.metadata presets (hadd ["metadata", "annotations"] List.mem_cons_self)
      fun preset hmem value => Or.inr ⟨preset, hmem, value, rfl⟩
  have hspec := carries_spec presets hadd
    (fun _ hdocument => sorted_of_lookup hsorted hdocument) hheld.spec
  exact (Record.Carries.of _ _ _ _ _)
    |>.field (.expected ObjectMeta.lawful {}) hmetadata
    |>.field (.optional PodSpec.lawful) hspec
    |>.same (.optional PodStatus.lawful) hheld.status

theorem exists_leads_injected {pod : Pod} {presets : List PodPreset} (hnil : presets ≠ [])
    {members : Entries Json} (hsorted : (Json.obj members).Sorted) (hheld : Held members pod) :
    (∀ operation ∈ Patch.between (codec.encode pod) (codec.encode (pod.injected presets)),
      Writes pod presets operation) ∧
    ∃ changed : Entries Json,
      Leads (codec.encode pod) (codec.encode (pod.injected presets)) (.obj members) (.obj changed) ∧
      changed.lookup "apiVersion" = members.lookup "apiVersion" ∧
      changed.lookup "kind" = members.lookup "kind" ∧ Held changed (pod.injected presets) := by
  have hextra : ∀ member ∈ Codec.kindMembers "v1" "Pod",
      member.2.Sorted ∧ member.1 ∉ record.keys := by
    simp [Codec.kindMembers, Json.Sorted, record, Record.field, Record.of]
  obtain ⟨hwrites, changed, hleads, hframe, hread⟩ :=
    (carries_injected presets hsorted hheld).members hextra (sorted_obj.1 hsorted).1
  obtain ⟨hmetadata', hspec', hstatus'⟩ := read_record_iff.1 hread
  refine ⟨hwrites, changed, hleads, hframe "apiVersion" (by decide), hframe "kind" (by decide),
    ⟨?_, hspec', hstatus'⟩⟩
  -- the pod remembers a preset, so its metadata is no default
  rcases Slot.exists_of_read_expected hmetadata' with hdefault | hfound
  · have hsome := annotations_remember_isSome hnil pod.metadata
    have hnone : (remember pod.metadata presets).annotations = none :=
      congrArg ObjectMeta.annotations hdefault
    rw [hnone] at hsome
    cases hsome
  · exact hfound

/-! ### What is left alone -/

theorem getLast?_of_mem_sites {pod : Pod} {site : List String} (hsite : site ∈ pod.sites)
    {last : String} (h : site.getLast? = some last) :
    last ∈ ["annotations", "volumes", "dnsConfig", "options", "env", "volumeMounts", "envFrom"] := by
  rw [sites] at hsite
  rcases List.mem_cons.1 hsite with rfl | hsite
  · obtain rfl := Option.some.inj h
    decide
  · cases hspec : pod.spec with
    | none => simp [hspec] at hsite
    | some spec =>
      rw [hspec] at hsite
      rcases List.mem_cons.1 hsite with rfl | hsite
      · obtain rfl := Option.some.inj h
        decide
      · rcases List.mem_cons.1 hsite with rfl | hsite
        · rw [PodSpec.dnsSite] at h
          split at h
          all_goals
            obtain rfl := Option.some.inj h
            decide
        · obtain ⟨position, _, hsite⟩ := List.mem_flatMap.1 hsite
          obtain ⟨key, hkey, rfl⟩ := List.mem_map.1 hsite
          obtain rfl := Option.some.inj h
          have hkeys : ∀ key ∈ ["env", "volumeMounts", "envFrom"], key ∈ ["annotations", "volumes",
            "dnsConfig", "options", "env", "volumeMounts", "envFrom"] := by decide
          exact hkeys key hkey

theorem Writes.staysIn {pod : Pod} {presets : List PodPreset} {operation : Operation}
    (h : Writes pod presets operation) : ∃ site ∈ pod.sites, Patch.StaysIn site operation := by
  rcases h with ⟨site, hsite, rest, value, rfl⟩ | ⟨preset, _, value, rfl⟩
  · refine ⟨site, hsite, Patch.staysIn_add (fun last hlast => ?_) rest value⟩
    have hkeys : ∀ key ∈ ["annotations", "volumes", "dnsConfig", "options", "env", "volumeMounts",
      "envFrom"], Pointer.position? key = none ∧ key ≠ "-" := by decide
    exact hkeys last (getLast?_of_mem_sites hsite hlast)
  · exact ⟨["metadata", "annotations"], List.mem_cons_self,
      Patch.staysIn_replace ["metadata", "annotations"] [preset.appliedKey] value⟩

/-! ### Decisions -/

theorem exists_injected_of_patched {pod : Pod} {podNamespace : String} {injection : Injection}
    {patch : Json.Patch} (h : (pod.decision podNamespace injection).verdict = .patched patch) :
    ∃ names injected, injection = .injected names injected ∧
      patch = Patch.between (codec.encode pod) (codec.encode injected) := by
  cases injection with
  | injected names injected =>
    refine ⟨names, injected, rfl, ?_⟩
    simp only [decision, patch?, Patch.between?] at h
    split at h
    · cases h
    · exact (Verdict.patched.inj h).symm
  | _ => cases h

/-- **The patch of a pod is safe on the document that the pod was read from.**  Performed there, it
succeeds, and what is read afterwards is the injected pod.  It takes nothing out, and it puts nothing
in the place of another but the annotations of presets.  Whatever is apart from the sites of the pod
stays as it is. -/
theorem perform?_patch {read : Json → Option Pod} (hreader : read ∈ readers) {raw : Json}
    (hsorted : raw.Sorted) {metadata : List (String × Json)}
    (hmetadata : raw.member? "metadata" = some (.obj metadata)) {pod : Pod}
    (hread : read raw = some pod) {podNamespace : String} {presets : List PodPreset}
    {injection : Injection} (hinject : pod.inject podNamespace presets = .ok injection)
    {patch : Json.Patch}
    (hpatch : (pod.decision podNamespace injection).verdict = .patched patch) :
    ∃ names injected changed, injection = .injected names injected ∧
      Json.Patch.ofJson? patch.toJson = some patch ∧ patch.perform? raw = some changed ∧
      read changed = some injected ∧
      (∀ operation ∈ patch, (∃ path value, operation = .add path value) ∨
        ∃ preset ∈ presets, ∃ value,
          operation = .replace ⟨["metadata", "annotations", preset.appliedKey]⟩ value) ∧
      ∀ place, (∀ site ∈ pod.sites, Json.Apart site place) →
        changed.follow? place = raw.follow? place := by
  obtain ⟨names, injected, rfl, rfl⟩ := exists_injected_of_patched hpatch
  obtain ⟨_, matched, hmatched, hnil, _, rfl, rfl⟩ := inject_eq_injected_iff.1 hinject
  cases raw with
  | obj members =>
    have hheld := held_of_read hreader hmetadata hread
    obtain ⟨hwrites, changed, hleads, hapiVersion, hkind, hchanged⟩ :=
      exists_leads_injected hnil hsorted hheld
    refine ⟨_, _, .obj changed, rfl, Patch.ofJson?_toJson _, hleads,
      read_of_held hreader hmetadata hread hapiVersion hkind hchanged, fun operation hmem => ?_,
      fun place hapart => ?_⟩
    · rcases hwrites operation hmem with ⟨_, _, _, value, rfl⟩ | ⟨preset, hpreset, hreplace⟩
      · exact Or.inl ⟨_, value, rfl⟩
      · exact Or.inr ⟨preset, (PodPreset.mem_of_matching hmatched hpreset).1, hreplace⟩
    · exact Patch.follow?_perform? (fun operation hmem => (hwrites operation hmem).staysIn) hleads
        hapart
  | _ => cases hmetadata

def sampleDocument : Json :=
  .obj [("apiVersion", .str "v1"), ("kind", .str "Pod"),
    ("metadata", .obj [("annotations", .null), ("clusterName", .str "east"), ("name", .str "shop"),
      ("namespace", .str "web")]),
    ("spec", .obj [
      ("containers", .arr [.obj [
        ("env", .arr [.obj [("name", .str "MODE"), ("note", .str "kept"), ("value", .str "fast")]]),
        ("image", .str "shop"), ("name", .str "shop"), ("tty", .bool true)]]),
      ("dnsConfig", .null), ("dnsPolicy", .str "ClusterFirst"), ("hostname", .str "shop")])]

theorem perform?_patch_sample :
    sampleDocument.Sorted ∧ codec.decode sampleDocument = some sample ∧
      ∃ names injected changed patch,
        sample.inject "web" [.sample] = .ok (.injected names injected) ∧
        (sample.decision "web" (.injected names injected)).verdict = .patched patch ∧
        patch.perform? sampleDocument = some changed ∧ codec.decode changed = some injected := by
  have hsorted : sampleDocument.Sorted := by
    simp only [sampleDocument, Json.Sorted, SortedMembers, SortedItems]
    decide
  have hread : codec.decode sampleDocument = some sample := by decide
  have hinject : sample.inject "web" [.sample] =
      .ok (.injected ["db"] (sample.injected [.sample])) := by decide
  have hpatch : (sample.decision "web" (.injected ["db"] (sample.injected [.sample]))).verdict =
      .patched (Patch.between (codec.encode sample) (codec.encode (sample.injected [.sample]))) := by
    decide
  obtain ⟨_, _, changed, heq, _, hperform, hdecode, _⟩ :=
    perform?_patch List.mem_cons_self hsorted rfl hread hinject hpatch
  cases heq
  exact ⟨hsorted, hread, _, _, changed, _, hinject, hpatch, hperform, hdecode⟩

end Pod

end WebhookOperator
