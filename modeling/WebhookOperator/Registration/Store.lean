import WebhookOperator.Registration.Defaults
import WebhookOperator.Registration.Upsert

/-!
# A cluster that keeps registration objects

The cluster keeps the registration objects of both kinds under their names, and puts every object
that it stores under a version that no object had before. An object is created only where there is
none, and replaced only by one that carries the version of the object in its place, so a writer that
has not seen the last change is refused. Other writers may change anything between two requests.

The path of a request alone says which object it is about, and a number sign or a question mark ends
the path. So a request about a name with one is about what stands before it, and no object gets a
name that is not a segment of a path as it is.

* `Store.find?_put_self`, `Store.find?_put_of_ne`: what a look-up answers after a write
* `Store.find?_remove_self`, `Store.find?_remove_of_ne`: what it answers after a removal
* `Store.Consistent.serve`, `Store.Consistent.on`: requests and other writers keep it consistent
-/

namespace WebhookOperator

open Api

structure Store where
  mutating : String → Option (WebhookConfiguration .mutating) := fun _ => none
  validating : String → Option (WebhookConfiguration .validating) := fun _ => none
  /-- How many objects were written. -/
  written : Nat := 0
  /-- The version that each write stores its object under. -/
  stamp : Nat → String := Nat.repr

namespace Store

def find? (store : Store) : (kind : WebhookKind) → String → Option (WebhookConfiguration kind)
  | .mutating => store.mutating
  | .validating => store.validating

def place (store : Store) : (kind : WebhookKind) → String →
    Option (WebhookConfiguration kind) → Store
  | .mutating, name, object =>
    { store with mutating := fun other => if other = name then object else store.mutating other }
  | .validating, name, object =>
    { store with
      validating := fun other => if other = name then object else store.validating other }

/-- The version under which the next object is stored. -/
def nextVersion (store : Store) : String := store.stamp store.written

def put (store : Store) (kind : WebhookKind) (name : String)
    (object : WebhookConfiguration kind) : Store :=
  { store.place kind name (some (object.versioned store.nextVersion)) with
    written := store.written + 1 }

def remove (store : Store) (kind : WebhookKind) (name : String) : Store :=
  store.place kind name none

/-! ### Requests -/

def refusal (code : UInt16) (reason : String) : Reply :=
  .answered code.toNat (.ofJson (StatusError.codec.encode
    { status := "Failure", message := "", reason := reason, code := code }))

/-- The name that the path of a request about a name ends in. -/
def reached (name : String) : String := pathOf name

/-- Whether an object may have the name. -/
def isObjectName (name : String) : Bool :=
  name ∉ ["", ".", ".."] && name.toList.all (· ∉ ['/', '%', '?', '#'])

def shown (store : Store) (kind : WebhookKind) (name : String) : Reply :=
  match store.find? kind name with
  | some object => .answered 200 (.ofJson ((WebhookConfiguration.codec kind).encode object))
  | none => refusal 404 "NotFound"

def create (store : Store) (kind : WebhookKind) (object : WebhookConfiguration kind) :
    Reply × Store :=
  match object.metadata.name with
  | none => (refusal 422 "Invalid", store)
  | some name =>
    if !isObjectName name then (refusal 422 "Invalid", store)
    else if (store.find? kind name).isSome then (refusal 409 "AlreadyExists", store)
    else
      let store := store.put kind name object
      (store.shown kind name, store)

/-- Replaces the object of a name by one that was made from it. -/
def replace (store : Store) (kind : WebhookKind) (name : String)
    (object : WebhookConfiguration kind) : Reply × Store :=
  match store.find? kind name with
  | none => (refusal 404 "NotFound", store)
  | some live =>
    if object.metadata.name ≠ some name then (refusal 400 "BadRequest", store)
    else if object.metadata.resourceVersion = live.metadata.resourceVersion then
      let store := store.put kind name object
      (store.shown kind name, store)
    else (refusal 409 "Conflict", store)

def serveKind (store : Store) (kind : WebhookKind) (request : Request) (rest : List Char) :
    Reply × Store :=
  match request.method, rest, request.body.bind (WebhookConfiguration.codec kind).decode with
  | .get, '/' :: name, _ => (store.shown kind (String.ofList name), store)
  | .post, [], some object => store.create kind object
  | .put, '/' :: name, some object => store.replace kind (String.ofList name) object
  | _, _, _ => (refusal 400 "BadRequest", store)

/-- What follows the path of a collection in an address. -/
def within? (kind : WebhookKind) (address : String) : Option (List Char) :=
  let path := (WebhookConfiguration.resource kind).path.toList
  if path.isPrefixOf address.toList then some (address.toList.drop path.length) else none

/-- Serves a request by its path. -/
def serve (store : Store) (request : Request) : Reply × Store :=
  match within? .mutating (pathOf request.uri), within? .validating (pathOf request.uri) with
  | some rest, _ => store.serveKind .mutating request rest
  | none, some rest => store.serveKind .validating request rest
  | none, none => (refusal 404 "NotFound", store)

end Store

/-! ### Other writers -/

inductive ForeignWrite where
  | put (kind : WebhookKind) (name : String) (object : WebhookConfiguration kind)
  | remove (kind : WebhookKind) (name : String)

def ForeignWrite.on (store : Store) : ForeignWrite → Store
  | put kind name object => store.put kind name
      { object with metadata := { object.metadata with name := some name } }
  | remove kind name => store.remove kind name

/-- A store among other writers: what they do before each of the next requests, and the store as the
last request found it. -/
structure SharedStore where
  store : Store
  foreign : List (List ForeignWrite) := []
  found : Store := store

namespace SharedStore

/-- Lets the others write, and then serves a request. -/
def serve (shared : SharedStore) (request : Request) : Reply × SharedStore :=
  let found := (shared.foreign.headD []).foldl ForeignWrite.on shared.store
  let (reply, store) := found.serve request
  (reply, { store := store, foreign := shared.foreign.tail, found := found })

end SharedStore

/-! ### Look-ups after writes -/

namespace Store

theorem find?_place_self (store : Store) (kind : WebhookKind) (name : String)
    (object : Option (WebhookConfiguration kind)) :
    (store.place kind name object).find? kind name = object := by
  cases kind <;> simp [place, find?]

theorem find?_place_of_ne (store : Store) {kind kind' : WebhookKind} {name name' : String}
    (object : Option (WebhookConfiguration kind)) (h : kind' = kind → name' ≠ name) :
    (store.place kind name object).find? kind' name' = store.find? kind' name' := by
  cases kind <;> cases kind' <;> simp_all [place, find?]

@[simp] theorem written_place (store : Store) (kind : WebhookKind) (name : String)
    (object : Option (WebhookConfiguration kind)) :
    (store.place kind name object).written = store.written := by
  cases kind <;> rfl

@[simp] theorem stamp_place (store : Store) (kind : WebhookKind) (name : String)
    (object : Option (WebhookConfiguration kind)) :
    (store.place kind name object).stamp = store.stamp := by
  cases kind <;> rfl

@[simp] theorem stamp_put (store : Store) (kind : WebhookKind) (name : String)
    (object : WebhookConfiguration kind) : (store.put kind name object).stamp = store.stamp :=
  stamp_place store kind name _

theorem find?_put (store : Store) (kind kind' : WebhookKind) (name name' : String)
    (object : WebhookConfiguration kind) :
    (store.put kind name object).find? kind' name' =
      (store.place kind name (some (object.versioned store.nextVersion))).find? kind' name' := by
  cases kind' <;> rfl

theorem find?_put_self (store : Store) (kind : WebhookKind) (name : String)
    (object : WebhookConfiguration kind) :
    (store.put kind name object).find? kind name =
      some (object.versioned store.nextVersion) := by
  rw [find?_put, find?_place_self]

theorem find?_put_of_ne (store : Store) {kind kind' : WebhookKind} {name name' : String}
    (object : WebhookConfiguration kind) (h : kind' = kind → name' ≠ name) :
    (store.put kind name object).find? kind' name' = store.find? kind' name' := by
  rw [find?_put, find?_place_of_ne store _ h]

theorem find?_remove_self (store : Store) (kind : WebhookKind) (name : String) :
    (store.remove kind name).find? kind name = none :=
  find?_place_self store kind name none

theorem find?_remove_of_ne (store : Store) {kind kind' : WebhookKind} {name name' : String}
    (h : kind' = kind → name' ≠ name) :
    (store.remove kind name).find? kind' name' = store.find? kind' name' :=
  find?_place_of_ne store none h

/-! ### Consistency -/

/-- Every object is stored under its own name and under a version that no write will get again. -/
structure Consistent (store : Store) : Prop where
  distinct : ∀ number other, store.stamp number = store.stamp other → number = other
  named : ∀ kind name object, store.find? kind name = some object →
    object.metadata.name = some name
  versioned : ∀ kind name object, store.find? kind name = some object →
    ∃ version, object.metadata.resourceVersion = some version ∧
      ∀ number, store.written ≤ number → version ≠ store.stamp number

theorem consistent_empty : Consistent {} where
  distinct _ _ h := by
    simpa [Nat.toList_repr] using
      congrArg (fun text => Nat.ofDigitChars 10 (String.toList text) 0) h
  named kind name object h := by cases kind <;> simp [find?] at h
  versioned kind name object h := by cases kind <;> simp [find?] at h

/-- What a look-up after a write has found is the written object, or what stood there before. -/
theorem find?_put_cases {store : Store} {kind kind' : WebhookKind} {name name' : String}
    {object : WebhookConfiguration kind} {found : WebhookConfiguration kind'}
    (h : (store.put kind name object).find? kind' name' = some found) :
    (∃ heq : kind = kind', name = name' ∧ found = heq ▸ object.versioned store.nextVersion) ∨
      store.find? kind' name' = some found := by
  by_cases heq : kind' = kind ∧ name' = name
  · obtain ⟨rfl, rfl⟩ := heq
    rw [find?_put_self] at h
    exact Or.inl ⟨rfl, rfl, (Option.some.inj h).symm⟩
  · rw [find?_put_of_ne store object fun hkind hname => heq ⟨hkind, hname⟩] at h
    exact Or.inr h

/-- What a look-up after a removal has found stood there before. -/
theorem find?_of_find?_remove {store : Store} {kind kind' : WebhookKind} {name name' : String}
    {found : WebhookConfiguration kind'}
    (h : (store.remove kind name).find? kind' name' = some found) :
    store.find? kind' name' = some found := by
  by_cases heq : kind' = kind ∧ name' = name
  · obtain ⟨rfl, rfl⟩ := heq
    rw [find?_remove_self] at h
    cases h
  · rwa [find?_remove_of_ne store fun hkind hname => heq ⟨hkind, hname⟩] at h

theorem Consistent.put {store : Store} (h : store.Consistent) {kind : WebhookKind} {name : String}
    {object : WebhookConfiguration kind} (hname : object.metadata.name = some name) :
    (store.put kind name object).Consistent where
  distinct := by
    rw [stamp_put]
    exact h.distinct
  named kind' name' found hfound := by
    rcases find?_put_cases hfound with ⟨rfl, rfl, rfl⟩ | hfound
    · exact hname
    · exact h.named kind' name' found hfound
  versioned kind' name' found hfound := by
    rw [stamp_put]
    rcases find?_put_cases hfound with ⟨rfl, rfl, rfl⟩ | hfound
    · refine ⟨store.nextVersion, rfl, fun number hle heq => ?_⟩
      exact absurd (h.distinct _ _ heq) (Nat.ne_of_lt hle)
    · obtain ⟨version, hversion, hnew⟩ := h.versioned kind' name' found hfound
      exact ⟨version, hversion, fun number hle => hnew number (Nat.le_of_succ_le hle)⟩

theorem Consistent.remove {store : Store} (h : store.Consistent) (kind : WebhookKind)
    (name : String) : (store.remove kind name).Consistent where
  distinct := by
    rw [Store.remove, stamp_place]
    exact h.distinct
  named kind' name' found hfound := h.named kind' name' found (find?_of_find?_remove hfound)
  versioned kind' name' found hfound := by
    rw [Store.remove, stamp_place, written_place]
    exact h.versioned kind' name' found (find?_of_find?_remove hfound)

theorem Consistent.create {store : Store} (h : store.Consistent) {kind : WebhookKind}
    (object : WebhookConfiguration kind) : (store.create kind object).2.Consistent := by
  unfold Store.create
  split
  · exact h
  next hname =>
    split
    · exact h
    · split
      · exact h
      · exact h.put hname

theorem Consistent.replace {store : Store} (h : store.Consistent) {kind : WebhookKind}
    (name : String) (object : WebhookConfiguration kind) :
    (store.replace kind name object).2.Consistent := by
  unfold Store.replace
  split
  · exact h
  · split
    · exact h
    next hname =>
      split
      · exact h.put (Decidable.not_not.1 hname)
      · exact h

theorem Consistent.serveKind {store : Store} (h : store.Consistent) (kind : WebhookKind)
    (request : Request) (rest : List Char) :
    (store.serveKind kind request rest).2.Consistent := by
  unfold Store.serveKind
  split
  · exact h
  · exact h.create _
  · exact h.replace _ _
  · exact h

/-- **Every request leaves a consistent store behind.** -/
theorem Consistent.serve {store : Store} (h : store.Consistent) (request : Request) :
    (store.serve request).2.Consistent := by
  unfold Store.serve
  split
  · exact h.serveKind _ _ _
  · exact h.serveKind _ _ _
  · exact h

theorem Consistent.on {store : Store} (h : store.Consistent) (write : ForeignWrite) :
    (write.on store).Consistent := by
  cases write with
  | put kind name object => exact h.put rfl
  | remove kind name => exact h.remove kind name

end Store

end WebhookOperator
