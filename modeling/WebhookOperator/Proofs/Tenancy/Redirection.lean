import WebhookOperator.Proofs.Admission.Object
import WebhookOperator.Proofs.Codec.Tenancy
import WebhookOperator.Proofs.Json.Exact
import WebhookOperator.Proofs.Json.Reading

/-!
# Operand requests are sent elsewhere

A request for operands that names the default registry namespace is sent to the namespace of its
tenant.  The patch that says so is the difference of two written operand requests, and it is performed
on the document that the cluster holds, which may have members that no operand request has.

The difference is followed down into the document: it lies under `spec`, there under `requests`, and
there under the positions of the requests that name the default.  At each step everything else is the
same on both sides.

* `OperandRequest.patch?_eq`: the patch, operation by operation
* `OperandRequest.leads_resent`: what the patch does to the document that the request was read from
* `OperandRequest.follow?_resent`, `OperandRequest.staysIn_redirections`: what the document says then
-/

namespace WebhookOperator

open Json

theorem MappingTable.defaultNamespace_ne_empty (table : MappingTable) :
    table.defaultNamespace ≠ "" := by
  rw [defaultNamespace]
  split
  · split
    · decide
    next hname => exact fun heq => hname (by rw [heq]; rfl)
  · decide

/-! ### One registry -/

namespace RegistryRequest

/-- The change of a registry namespace at a site; the empty one is taken out. -/
def redirection (site : List String) (target : String) : Operation :=
  if target = "" then .remove ⟨site⟩ else .replace ⟨site⟩ (.str target)

/-- The document of what is asked of a registry, sent to another namespace when it names the given
one. -/
def resent (source target : String) : Json → Json
  | .obj members =>
    if members.lookup "registryNamespace" = some (.str source) then
      .obj (match written target with
        | none => Entries.erase "registryNamespace" members
        | some name => Entries.insert "registryNamespace" name members)
    else .obj members
  | document => document

theorem within_redirection (steps site : List String) (target : String) :
    (redirection site target).within steps = redirection (steps ++ site) target := by
  rw [redirection, redirection]
  split <;> rfl

variable {source target : String}

/-- A request names a namespace where its document does. -/
theorem lookup_registryNamespace_iff (hsource : source ≠ "") {members : Entries Json}
    {asked : RegistryRequest} (hread : codec.decode (.obj members) = some asked) :
    members.lookup "registryNamespace" = some (.str source) ↔ asked.registryNamespace = source := by
  obtain ⟨_, hname, _, _⟩ := decode_obj_iff.1 hread
  cases hlookup : members.lookup "registryNamespace" with
  | none =>
    rw [hlookup] at hname
    have hempty : "" = asked.registryNamespace := Option.some.inj hname
    rw [← hempty]
    constructor
    · intro h
      cases h
    · intro h
      exact absurd h.symm hsource
  | some document =>
    rw [hlookup] at hname
    cases document with
    | str name =>
      have hname : name = asked.registryNamespace := Option.some.inj hname
      rw [hname, Option.some.injEq, Json.str.injEq]
    | _ => cases hname

/-- A request and the same one for another namespace. -/
theorem differAt (asked : RegistryRequest) (name : String) :
    DifferAt "registryNamespace" (written asked.registryNamespace) (written name)
      (codec.encode asked) (codec.encode { asked with registryNamespace := name }) where
  before_object := ⟨_, rfl⟩
  after_object := ⟨_, rfl⟩
  before_sorted := lawful.sorted_encode asked
  after_sorted := lawful.sorted_encode _
  before_member := member?_registryNamespace asked
  after_member := member?_registryNamespace { asked with registryNamespace := name }
  other_member _ hne := member?_with asked name hne

theorem between_redirect (hsource : source ≠ "") (hne : target ≠ source) (asked : RegistryRequest) :
    Patch.between (codec.encode asked) (codec.encode (asked.redirect source target)) =
      if asked.registryNamespace = source then [redirection ["registryNamespace"] target] else [] := by
  rw [redirect]
  split
  next hname =>
    rw [(differAt asked target).between_eq, hname, written, if_neg hsource, written, redirection]
    split
    · rfl
    · rw [memberChange, Patch.between, Patch.differences, if_neg]
      · rfl
      · intro heq
        exact hne (Json.str.inj heq).symm
  · exact Patch.differences_self _ _ (lawful.sorted_encode asked)

/-- What the change does to the document that the request was read from. -/
theorem leads_resent (hsource : source ≠ "") {members : Entries Json} (hsorted : members.Sorted)
    {asked : RegistryRequest} (hread : codec.decode (.obj members) = some asked) :
    Leads (codec.encode asked) (codec.encode (asked.redirect source target)) (.obj members)
      (resent source target (.obj members)) := by
  have hnames := lookup_registryNamespace_iff hsource hread
  rw [redirect, resent]
  by_cases hname : asked.registryNamespace = source
  · have hheld := hnames.2 hname
    have hdiffer := differAt asked target
    rw [hname, written, if_neg hsource] at hdiffer
    rw [if_pos hname, if_pos hheld]
    by_cases htarget : target = ""
    · rw [written, if_pos htarget] at hdiffer ⊢
      exact hdiffer.leads_dropped hheld
    · rw [written, if_neg htarget] at hdiffer ⊢
      exact hdiffer.leads_member hsorted hheld (leads_self trivial trivial)
  · rw [if_neg hname, if_neg fun h => hname (hnames.1 h)]
    exact .same (lawful.sorted_encode asked) _

theorem exists_resent {members : Entries Json}
    (hname : members.lookup "registryNamespace" = some (.str source)) (target : String) :
    ∃ moved : Entries Json, resent source target (.obj members) = .obj moved ∧
      moved.lookup "registryNamespace" = written target ∧
      ∀ other, other ≠ "registryNamespace" → moved.lookup other = members.lookup other := by
  rw [resent, if_pos hname]
  refine ⟨_, rfl, ?_, ?_⟩
  · cases written target with
    | none => rw [Entries.lookup_erase, if_pos rfl]
    | some name => rw [Entries.lookup_insert, if_pos rfl]
  · intro other hne
    cases written target with
    | none => rw [Entries.lookup_erase, if_neg hne]
    | some name => rw [Entries.lookup_insert, if_neg hne]

theorem read_written (name : String) :
    (Slot.defaulted .string "" String.isEmpty).read (written name) = some name := by
  rw [written]
  split
  next hname => rw [hname]; rfl
  · rfl

/-- It is read as the request that was sent elsewhere. -/
theorem decode_resent (hsource : source ≠ "") {members : Entries Json} {asked : RegistryRequest}
    (hread : codec.decode (.obj members) = some asked) :
    codec.decode (resent source target (.obj members)) = some (asked.redirect source target) := by
  have hnames := lookup_registryNamespace_iff hsource hread
  rw [redirect]
  by_cases hname : asked.registryNamespace = source
  · obtain ⟨moved, hmoved, hwritten, hsame⟩ := exists_resent (hnames.2 hname) target
    obtain ⟨hregistry, _, hoperands, hdescription⟩ := decode_obj_iff.1 hread
    rw [if_pos hname, hmoved, decode_obj_iff, hwritten, hsame "registry" (by decide),
      hsame "operands" (by decide), hsame "description" (by decide)]
    exact ⟨hregistry, read_written target, hoperands, hdescription⟩
  · rw [if_neg hname, resent, if_neg fun h => hname (hnames.1 h)]
    exact hread

end RegistryRequest

/-! ### All registries -/

namespace OperandRequestSpec

/-- The content with all requests for a namespace sent to another. -/
def sent (spec : OperandRequestSpec) (source target : String) : OperandRequestSpec where
  requests := spec.requests.map (·.redirect source target)

theorem ne_of_mem_sent {source target : String} (hne : target ≠ source) {spec : OperandRequestSpec}
    {asked : RegistryRequest} (h : asked ∈ (spec.sent source target).requests) :
    asked.registryNamespace ≠ source := by
  obtain ⟨before, _, rfl⟩ := List.mem_map.1 h
  rw [RegistryRequest.redirect]
  split
  · exact hne
  next hname => exact hname

def resent (source target : String) : Json → Json :=
  onMember "requests" (onItems (RegistryRequest.resent source target))

variable {source target : String}

/-- The positions of the requests that name a namespace, in order. -/
def positions (spec : OperandRequestSpec) (source : String) : List Nat :=
  (spec.requests.zipIdx.filter (·.1.registryNamespace = source)).map (·.2)

theorem mem_positions_iff {spec : OperandRequestSpec} {position : Nat} :
    position ∈ spec.positions source ↔
      ∃ asked, spec.requests[position]? = some asked ∧ asked.registryNamespace = source := by
  simp [positions, List.mem_zipIdx_iff_getElem?]

theorem positions_increasing (spec : OperandRequestSpec) (source : String) :
    (spec.positions source).Pairwise (· < ·) := by
  have hall : (spec.requests.zipIdx.map (·.2)).Pairwise (· < ·) := by
    rw [List.zipIdx_map_snd]
    exact List.pairwise_lt_range'
  exact hall.sublist (List.filter_sublist.map _)

/-- Two contents differ in their requests only. -/
theorem differAt (spec other : OperandRequestSpec) :
    DifferAt "requests" (some (RegistryRequest.codec.list.encode spec.requests))
      (some (RegistryRequest.codec.list.encode other.requests)) (codec.encode spec)
      (codec.encode other) where
  before_object := ⟨_, rfl⟩
  after_object := ⟨_, rfl⟩
  before_sorted := lawful.sorted_encode spec
  after_sorted := lawful.sorted_encode other
  before_member := rfl
  after_member := rfl
  other_member key hne := by
    rw [encode_eq, encode_eq]
    simp [member?, members?, Entries.lookup_cons_eq, hne]

theorem between_sent (hsource : source ≠ "") (hne : target ≠ source) (spec : OperandRequestSpec) :
    Patch.between (codec.encode spec) (codec.encode (spec.sent source target)) =
      (spec.positions source).map fun position =>
        RegistryRequest.redirection ["requests", Nat.repr position, "registryNamespace"] target := by
  rw [(differAt spec (spec.sent source target)).between_eq, memberChange]
  have hafter : RegistryRequest.codec.list.encode (spec.sent source target).requests =
      .arr (spec.requests.map fun asked =>
        RegistryRequest.codec.encode (asked.redirect source target)) :=
    congrArg Json.arr List.map_map
  have hbefore : RegistryRequest.codec.list.encode spec.requests =
      .arr (spec.requests.map RegistryRequest.codec.encode) := rfl
  rw [hafter, hbefore, between_arr_map]
  simp only [RegistryRequest.between_redirect hsource hne]
  rw [positions]
  induction spec.requests.zipIdx with
  | nil => rfl
  | cons entry entries ih =>
    rw [List.flatMap_cons, List.map_append, ih, List.filter_cons]
    by_cases hname : entry.1.registryNamespace = source
    · rw [if_pos hname, if_pos (decide_eq_true hname)]
      simp [RegistryRequest.within_redirection]
    · rw [if_neg hname, if_neg fun h => hname (of_decide_eq_true h)]
      rfl

theorem getElem?_of_mapM {α β : Type} {read : α → Option β} {items : List α} {values : List β}
    (h : items.mapM read = some values) (position : Nat) :
    values[position]? = items[position]?.bind read := by
  induction items generalizing values position with
  | nil =>
    cases h
    rfl
  | cons item items ih =>
    rw [List.mapM_cons] at h
    obtain ⟨value, hvalue, h⟩ := Option.bind_eq_some_iff.1 h
    obtain ⟨rest, hrest, h⟩ := Option.bind_eq_some_iff.1 h
    cases h
    cases position with
    | zero => exact hvalue.symm
    | succ position => exact ih hrest position

/-- The requests that a document says, read in order. -/
theorem itemsLead_resent (target : String) (hsource : source ≠ "") {items : List Json}
    (hsorted : SortedItems items) (hform : ∀ item ∈ items, ∃ members, item = .obj members)
    {requests : List RegistryRequest} (hread : items.mapM RegistryRequest.codec.decode = some requests) :
    ItemsLead (requests.map RegistryRequest.codec.encode)
        ((requests.map (·.redirect source target)).map RegistryRequest.codec.encode) items
        (items.map (RegistryRequest.resent source target)) ∧
      (items.map (RegistryRequest.resent source target)).mapM RegistryRequest.codec.decode =
        some (requests.map (·.redirect source target)) := by
  induction items generalizing requests with
  | nil =>
    cases hread
    exact ⟨.added [], rfl⟩
  | cons item items ih =>
    rw [SortedItems] at hsorted
    rw [List.mapM_cons] at hread
    obtain ⟨asked, hasked, hread⟩ := Option.bind_eq_some_iff.1 hread
    obtain ⟨rest, hrest, hread⟩ := Option.bind_eq_some_iff.1 hread
    cases hread
    obtain ⟨members, rfl⟩ := hform item List.mem_cons_self
    obtain ⟨hleads, hdecode⟩ := ih hsorted.2 (fun other hmem => hform other (.tail _ hmem)) hrest
    constructor
    · exact .item (RegistryRequest.leads_resent hsource (sorted_obj.1 hsorted.1).1 hasked) hleads
    · rw [List.map_cons, List.mapM_cons, RegistryRequest.decode_resent hsource hasked, hdecode]
      rfl

/-- A content without requests, or with those of an array. -/
theorem read_requests {members : Entries Json} {spec : OperandRequestSpec}
    (hread : codec.decode (.obj members) = some spec) :
    members.lookup "requests" = none ∧ spec.requests = [] ∨
      ∃ items, members.lookup "requests" = some (.arr items) ∧
        items.mapM RegistryRequest.codec.decode = some spec.requests := by
  have hread := decode_obj_iff.1 hread
  cases hlookup : members.lookup "requests" with
  | none =>
    rw [hlookup] at hread
    exact .inl ⟨rfl, (Option.some.inj hread).symm⟩
  | some document =>
    rw [hlookup] at hread
    cases document with
    | arr items => exact .inr ⟨items, rfl, hread⟩
    | _ => cases hread

/-- What the change does to the document that the content was read from, and what is read then. -/
theorem leads_resent (target : String) (hsource : source ≠ "") {members : Entries Json}
    (hsorted : (Json.obj members).Sorted)
    (hform : ∀ items, members.lookup "requests" = some (.arr items) →
      ∀ item ∈ items, ∃ asked, item = .obj asked)
    {spec : OperandRequestSpec} (hread : codec.decode (.obj members) = some spec) :
    Leads (codec.encode spec) (codec.encode (spec.sent source target)) (.obj members)
        (resent source target (.obj members)) ∧
      codec.decode (resent source target (.obj members)) = some (spec.sent source target) := by
  rcases read_requests hread with ⟨hlookup, hrequests⟩ | ⟨items, hlookup, hitems⟩
  · have hsent : spec.sent source target = spec := by
      obtain ⟨requests⟩ := spec
      subst hrequests
      rfl
    have hresent : resent source target (.obj members) = .obj members := by
      rw [resent, onMember, hlookup]
    rw [hsent, hresent]
    exact ⟨.same (lawful.sorted_encode spec) _, hread⟩
  · obtain ⟨hleads, hdecode⟩ := itemsLead_resent target hsource
      (sorted_of_lookup hsorted hlookup) (hform items hlookup) hitems
    have hresent : resent source target (.obj members) = .obj (Entries.insert "requests"
        (.arr (items.map (RegistryRequest.resent source target))) members) :=
      onMember_of_lookup hlookup _
    rw [hresent]
    constructor
    · exact (differAt spec _).leads_member (sorted_obj.1 hsorted).1 hlookup hleads.leads
    · rw [decode_obj_iff, Entries.lookup_insert, if_pos rfl]
      exact hdecode

end OperandRequestSpec

namespace OperandRequest

/-- Where an operand request names the registry namespace of one of its requests. -/
def site (position : Nat) : List String := ["spec", "requests", Nat.repr position, "registryNamespace"]

theorem text_site (position : Nat) :
    (Pointer.mk (site position)).text =
      "/spec/requests/" ++ Nat.repr position ++ "/registryNamespace" := by
  have hdigits : (Nat.toDigits 10 position).flatMap Pointer.escapeChar = Nat.toDigits 10 position :=
    Pointer.flatMap_escapeChar fun c hmem => Nat.isDigit_of_mem_toDigits (by decide) (by decide) hmem
  have hstart : Pointer.stepsText ["spec", "requests"] ++ ['/'] = "/spec/requests/".toList := by decide
  have hend : Pointer.stepsText ["registryNamespace"] = "/registryNamespace".toList := by decide
  refine String.toList_inj.1 ?_
  rw [String.toList_append, String.toList_append, ← hstart, ← hend, Pointer.text, String.toList_ofList]
  simp [Pointer.stepsText, site, hdigits]

def redirections (object : OperandRequest) (source target : String) : Json.Patch :=
  (object.spec.positions source).map fun position =>
    RegistryRequest.redirection (site position) target

/-- The operand request with all requests for a namespace sent to another. -/
def sent (object : OperandRequest) (source target : String) : OperandRequest :=
  { object with spec := object.spec.sent source target }

def resent (source target : String) : Json → Json :=
  onMember "spec" (OperandRequestSpec.resent source target)

theorem redirect_of_target? {table : MappingTable} {name target : String}
    (h : table.target? name = some target) (object : OperandRequest) :
    object.redirect name table = object.sent table.defaultNamespace target := by
  rw [redirect, h]
  rfl

/-- Nothing changes where there is no target, where the target is the default, and where no request
names the default. -/
theorem redirect_eq_self {table : MappingTable} {name : String} {object : OperandRequest}
    (h : table.target? name = none ∨ table.target? name = some table.defaultNamespace ∨
      ∀ asked ∈ object.spec.requests, asked.registryNamespace ≠ table.defaultNamespace) :
    object.redirect name table = object := by
  cases htarget : table.target? name with
  | none => rw [redirect, htarget]
  | some target =>
    have hsame : ∀ asked ∈ object.spec.requests,
        asked.redirect table.defaultNamespace target = asked := by
      intro asked hmem
      rw [RegistryRequest.redirect]
      split
      next hname =>
        rcases h with hnone | hdefault | hnames
        · rw [htarget] at hnone
          cases hnone
        · obtain rfl := Option.some.inj (htarget.symm.trans hdefault)
          rw [← hname]
        · exact absurd hname (hnames asked hmem)
      · rfl
    rw [redirect_of_target? htarget, sent, OperandRequestSpec.sent,
      List.map_congr_left (g := id) hsame, List.map_id]

variable {source target : String}

theorem differAt (object : OperandRequest) (spec : OperandRequestSpec) :
    DifferAt "spec" (some (OperandRequestSpec.codec.encode object.spec))
      (some (OperandRequestSpec.codec.encode spec)) (codec.encode object)
      (codec.encode { object with spec := spec }) where
  before_object := ⟨_, rfl⟩
  after_object := ⟨_, rfl⟩
  before_sorted := lawful.sorted_encode object
  after_sorted := lawful.sorted_encode _
  before_member := by
    rw [encode_eq]
    rfl
  after_member := by
    rw [encode_eq]
    rfl
  other_member key hne := by
    rw [encode_eq, encode_eq]
    simp [member?, members?, Entries.lookup_cons_eq, hne]

/-- **The change of an operand request**, request by request. -/
theorem between_sent (hsource : source ≠ "") (hne : target ≠ source) (object : OperandRequest) :
    Patch.between (codec.encode object) (codec.encode (object.sent source target)) =
      object.redirections source target := by
  rw [sent, (differAt object _).between_eq, memberChange, OperandRequestSpec.between_sent hsource hne,
    List.map_map]
  refine List.map_congr_left fun position _ => ?_
  exact RegistryRequest.within_redirection ["spec"] _ target

/-- The patch that a table asks for: none where nothing changes, and else the changes request by
request. -/
theorem patch?_eq_none {table : MappingTable} {object : OperandRequest}
    (h : object.redirect object.requester table = object) : object.patch? table = none := by
  rw [patch?, h]
  exact Patch.between?_self (lawful.sorted_encode object)

theorem patch?_eq_some {table : MappingTable} {object : OperandRequest}
    (htarget : table.target? object.requester = some target)
    (hne : target ≠ table.defaultNamespace)
    (hnames : ∃ asked ∈ object.spec.requests, asked.registryNamespace = table.defaultNamespace) :
    object.patch? table = some (object.redirections table.defaultNamespace target) := by
  obtain ⟨asked, hmem, hname⟩ := hnames
  obtain ⟨position, hposition⟩ := List.getElem?_of_mem hmem
  have hmember : position ∈ object.spec.positions table.defaultNamespace :=
    OperandRequestSpec.mem_positions_iff.2 ⟨asked, hposition, hname⟩
  have hnil : object.redirections table.defaultNamespace target ≠ [] := by
    intro heq
    rw [redirections, List.map_eq_nil_iff] at heq
    rw [heq] at hmember
    cases hmember
  rw [patch?, redirect_of_target? htarget, Patch.between?,
    between_sent table.defaultNamespace_ne_empty hne, if_neg]
  rwa [List.isEmpty_iff]

/-! ### The document of an operand request -/

/-- The content of an operand request and what it asks of each registry are objects. -/
structure InObjectForm (raw : Json) : Prop where
  spec : ∃ members, raw.follow? ["spec"] = some (.obj members)
  requests : ∀ items, raw.follow? ["spec", "requests"] = some (.arr items) →
    ∀ item ∈ items, ∃ members, item = .obj members

/-- What an operand request is read from by way of an object of any kind. -/
theorem decode_encode_iff {members : Entries Json} {held : AnyObject}
    (hheld : AnyObject.codec.decode (.obj members) = some held) {object : OperandRequest} :
    codec.decode (AnyObject.codec.encode held) = some object ↔
      held.metadata = object.metadata ∧
      (Slot.strict OperandRequestSpec.codec).read (members.lookup "spec") = some object.spec := by
  have hmetadata : (Slot.strict ObjectMeta.codec).read
      (some (ObjectMeta.codec.encode held.metadata)) = some held.metadata :=
    ObjectMeta.lawful.decode_encode held.metadata
  rw [AnyObject.encode_of_decode hheld, decode_obj_iff, AnyObject.lookup_passed_metadata,
    AnyObject.lookup_passed members held.metadata (by decide) (by decide) (by decide), hmetadata,
    Option.some.injEq]

/-- **What the patch does to the document that the operand request was read from**, and what is read
from it then. -/
theorem leads_resent (target : String) (hsource : source ≠ "") {raw : Json} (hsorted : raw.Sorted)
    (hform : InObjectForm raw) {held : AnyObject} (hheld : AnyObject.codec.decode raw = some held)
    {object : OperandRequest} (hread : codec.decode (AnyObject.codec.encode held) = some object) :
    Leads (codec.encode object) (codec.encode (object.sent source target)) raw
        (resent source target raw) ∧
      ∃ again, AnyObject.codec.decode (resent source target raw) = some again ∧
        codec.decode (AnyObject.codec.encode again) = some (object.sent source target) := by
  cases raw with
  | obj members =>
    obtain ⟨hmetadata, hspec⟩ := (decode_encode_iff hheld).1 hread
    obtain ⟨spec, hfollow⟩ := hform.spec
    have hlookup : members.lookup "spec" = some (.obj spec) := by
      simpa [follow?, child?] using hfollow
    rw [hlookup] at hspec
    have hitems : ∀ items, spec.lookup "requests" = some (.arr items) →
        ∀ item ∈ items, ∃ asked, item = .obj asked := by
      intro items hrequests
      refine hform.requests items ?_
      simp [follow?, child?, hlookup, hrequests]
    obtain ⟨hleads, hdecode⟩ := OperandRequestSpec.leads_resent target hsource
      (sorted_of_lookup hsorted hlookup) hitems hspec
    have hresent : resent source target (.obj members) =
        .obj (Entries.insert "spec" (OperandRequestSpec.resent source target (.obj spec)) members) :=
      onMember_of_lookup hlookup _
    rw [hresent]
    constructor
    · exact (differAt object _).leads_member (sorted_obj.1 hsorted).1 hlookup hleads
    · generalize hchanged : Entries.insert "spec"
        (OperandRequestSpec.resent source target (.obj spec)) members = changed
      have hspec' : changed.lookup "spec" =
          some (OperandRequestSpec.resent source target (.obj spec)) := by
        rw [← hchanged, Entries.lookup_insert, if_pos rfl]
      have hmetadata' : changed.lookup "metadata" = members.lookup "metadata" := by
        rw [← hchanged, Entries.lookup_insert, if_neg (by decide)]
      obtain ⟨hheldMetadata, _⟩ := AnyObject.decode_obj_iff.1 hheld
      rw [← hmetadata'] at hheldMetadata
      have hagain : AnyObject.codec.decode (.obj changed) = some
          ⟨held.metadata, Entries.erase "metadata" (AnyObject.dropPartialKind changed)⟩ :=
        AnyObject.decode_obj_iff.2 ⟨hheldMetadata, rfl⟩
      refine ⟨_, hagain, (decode_encode_iff hagain).2 ⟨hmetadata, ?_⟩⟩
      rw [hspec']
      exact hdecode
  | _ => cases hheld

/-- The patch stays in the sites of the requests that name the namespace. -/
theorem staysIn_redirections {object : OperandRequest} {operation : Operation}
    (h : operation ∈ object.redirections source target) :
    ∃ place ∈ (object.spec.positions source).map site, Patch.StaysIn place operation := by
  obtain ⟨position, hposition, rfl⟩ := List.mem_map.1 h
  refine ⟨site position, List.mem_map_of_mem hposition, ?_⟩
  rw [RegistryRequest.redirection]
  split
  · refine Patch.staysIn_remove fun last hlast => ?_
    have heq : "registryNamespace" = last := Option.some.inj hlast
    rw [← heq]
    decide
  · have hreplace := Patch.staysIn_replace (site position) [] (.str target)
    rwa [List.append_nil] at hreplace

/-- Where the document names the namespace of a request. -/
theorem exists_follow?_site (hsource : source ≠ "") {raw : Json} (hform : InObjectForm raw)
    {held : AnyObject} (hheld : AnyObject.codec.decode raw = some held)
    {object : OperandRequest} (hread : codec.decode (AnyObject.codec.encode held) = some object)
    {position : Nat} (hposition : position ∈ object.spec.positions source) :
    ∃ members spec items asked, raw = .obj members ∧ members.lookup "spec" = some (.obj spec) ∧
      spec.lookup "requests" = some (.arr items) ∧ items[position]? = some (.obj asked) ∧
      asked.lookup "registryNamespace" = some (.str source) := by
  cases raw with
  | obj members =>
    obtain ⟨_, hspec⟩ := (decode_encode_iff hheld).1 hread
    obtain ⟨spec, hfollow⟩ := hform.spec
    have hlookup : members.lookup "spec" = some (.obj spec) := by
      simpa [follow?, child?] using hfollow
    rw [hlookup] at hspec
    obtain ⟨request, hrequest, hname⟩ := OperandRequestSpec.mem_positions_iff.1 hposition
    rcases OperandRequestSpec.read_requests hspec with ⟨_, hnil⟩ | ⟨items, hitems, hmapM⟩
    · rw [hnil] at hrequest
      cases hrequest
    · rw [OperandRequestSpec.getElem?_of_mapM hmapM] at hrequest
      obtain ⟨item, hitem, hdecode⟩ := Option.bind_eq_some_iff.1 hrequest
      have hobject : ∃ asked, item = .obj asked := by
        refine hform.requests items ?_ item (List.mem_of_getElem? hitem)
        simp [follow?, child?, hlookup, hitems]
      obtain ⟨asked, rfl⟩ := hobject
      have hheld := (RegistryRequest.lookup_registryNamespace_iff hsource hdecode).2 hname
      exact ⟨members, spec, items, asked, rfl, hlookup, hitems, hitem, hheld⟩
  | _ => cases hheld

/-- There it names the new namespace afterwards. -/
theorem follow?_resent (hsource : source ≠ "") {raw : Json} (hform : InObjectForm raw)
    {held : AnyObject} (hheld : AnyObject.codec.decode raw = some held)
    {object : OperandRequest} (hread : codec.decode (AnyObject.codec.encode held) = some object)
    {position : Nat} (hposition : position ∈ object.spec.positions source) :
    (resent source target raw).follow? (site position) = RegistryRequest.written target := by
  obtain ⟨members, spec, items, asked, rfl, hspec, hitems, hitem, hname⟩ :=
    exists_follow?_site hsource hform hheld hread hposition
  obtain ⟨moved, hmoved, hwritten, _⟩ := RegistryRequest.exists_resent hname target
  have hstep : Pointer.position? (Nat.repr position) = some position :=
    Pointer.position?_eq_some_iff.2 rfl
  rw [resent, onMember_of_lookup hspec, OperandRequestSpec.resent, onMember_of_lookup hitems, onItems]
  simp [site, follow?, child?, Entries.lookup_insert, hstep, hitem, hmoved, hwritten]

end OperandRequest

end WebhookOperator
