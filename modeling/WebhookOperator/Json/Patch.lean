import WebhookOperator.Json.Pointer

/-!
# JSON patches

A patch is a list of operations on places of a document, done in order. `Patch.between` finds a
patch that leads from one document to another, and `Patch.perform?` does what a patch says. Each
operation is also a document of its own, an object with the members `op` and `path`.

The operations between two objects walk the keys of the new one first and take out the keys that
it lacks last. Arrays are compared position by position: items past the end of the old array are
added, and items past the end of the new one are all taken out at the position where it ends.
-/

namespace WebhookOperator.Json

inductive Operation where
  | add (path : Pointer) (value : Json)
  | remove (path : Pointer)
  | replace (path : Pointer) (value : Json)
  | move (source path : Pointer)
  | copy (source path : Pointer)
  | test (path : Pointer) (value : Json)
deriving DecidableEq, Inhabited

abbrev Patch := List Operation

/-! ### The difference of two documents -/

namespace Patch

/-- Takes out the members whose keys the new object lacks. -/
def removals (path : Pointer) (before after : Entries Json) : Patch :=
  before.filterMap fun (key, _) =>
    if (after.lookup key).isSome then none else some (.remove (path.key key))

mutual

def differences (path : Pointer) (before after : Json) : Patch :=
  match after with
  | .arr items =>
    match before with
    | .arr old =>
      itemDifferences path 0 old items ++
        List.replicate (old.length - items.length) (.remove (path.item items.length))
    | _ => [.replace path after]
  | .obj members =>
    match before with
    | .obj old => memberDifferences path old members ++ removals path old members
    | _ => [.replace path after]
  | .null => if before = .null then [] else [.replace path .null]
  | .bool value => if before = .bool value then [] else [.replace path (.bool value)]
  | .num value => if before = .num value then [] else [.replace path (.num value)]
  | .str value => if before = .str value then [] else [.replace path (.str value)]

/-- The changes that lead from old items, the first one at `position`, to new ones, apart from the
items that are left over. -/
def itemDifferences (path : Pointer) (position : Nat) (before after : List Json) : Patch :=
  match after with
  | [] => []
  | new :: after =>
    match before with
    | [] => .add (path.item position) new :: itemDifferences path (position + 1) [] after
    | old :: before =>
      differences (path.item position) old new ++
        itemDifferences path (position + 1) before after

/-- The changes that bring the members of the new object into the old one. -/
def memberDifferences (path : Pointer) (before : Entries Json) (after : List (String × Json)) :
    Patch :=
  match after with
  | [] => []
  | (key, new) :: after =>
    (match before.lookup key with
    | none => [.add (path.key key) new]
    | some old => differences (path.key key) old new) ++ memberDifferences path before after

end

def between (before after : Json) : Patch := differences .root before after

def between? (before after : Json) : Option Patch :=
  let patch := between before after
  if patch.isEmpty then none else some patch

end Patch

/-! ### Doing what a patch says -/

/-- Changes the place that steps lead to, by a change of the array or object that holds it. -/
def changeAt (change : String → Json → Option Json) (last : String) :
    List String → Json → Option Json
  | [], document => change last document
  | step :: steps, .obj members => do
    let value ← members.lookup step
    return .obj (Entries.insert step (← changeAt change last steps value) members)
  | step :: steps, .arr items => do
    let position ← Pointer.position? step
    let item ← items[position]?
    return .arr (items.set position (← changeAt change last steps item))
  | _, _ => none

/-- Changes the place that a pointer names; the whole document is changed by `whole`. -/
def changePlace (change : String → Json → Option Json) (whole : Option Json) (path : Pointer)
    (document : Json) : Option Json :=
  match path.steps.getLast? with
  | none => whole
  | some last => changeAt change last path.steps.dropLast document

/-- Puts a value under a step: a member, an item before a position, or with `-` a last item. -/
def putChild (value : Json) (step : String) : Json → Option Json
  | .obj members => some (.obj (Entries.insert step value members))
  | .arr items =>
    if step = "-" then some (.arr (items ++ [value]))
    else do
      let position ← Pointer.position? step
      if position ≤ items.length then
        return .arr (items.take position ++ value :: items.drop position)
      else none
  | _ => none

def swapChild (value : Json) (step : String) : Json → Option Json
  | .obj members =>
    if (members.lookup step).isSome then some (.obj (Entries.insert step value members)) else none
  | .arr items => do
    let position ← Pointer.position? step
    if position < items.length then return .arr (items.set position value) else none
  | _ => none

def dropChild (step : String) : Json → Option Json
  | .obj members =>
    if (members.lookup step).isSome then some (.obj (Entries.erase step members)) else none
  | .arr items => do
    let position ← Pointer.position? step
    if position < items.length then return .arr (items.eraseIdx position) else none
  | _ => none

namespace Operation

/-- Does one change; nothing when its place does not exist or a test fails. -/
def perform? (document : Json) : Operation → Option Json
  | add path value => changePlace (putChild value) (some value) path document
  | remove path => changePlace dropChild (some .null) path document
  | replace path value => changePlace (swapChild value) (some value) path document
  | move source path => do
    let value ← document.at? source
    let rest ← changePlace dropChild (some .null) source document
    changePlace (putChild value) (some value) path rest
  | copy source path => do
    let value ← document.at? source
    changePlace (putChild value) (some value) path document
  | test path value => if document.at? path = some value then some document else none

def toJson : Operation → Json
  | add path value => .ofMembers [("op", .str "add"), ("path", .str path.text), ("value", value)]
  | remove path => .ofMembers [("op", .str "remove"), ("path", .str path.text)]
  | replace path value =>
    .ofMembers [("op", .str "replace"), ("path", .str path.text), ("value", value)]
  | move source path =>
    .ofMembers [("op", .str "move"), ("from", .str source.text), ("path", .str path.text)]
  | copy source path =>
    .ofMembers [("op", .str "copy"), ("from", .str source.text), ("path", .str path.text)]
  | test path value => .ofMembers [("op", .str "test"), ("path", .str path.text), ("value", value)]

/-- What a kind of change has beside its kind, in order. -/
def fields? : String → Option (List String)
  | "add" | "replace" | "test" => some ["path", "value"]
  | "remove" => some ["path"]
  | "move" | "copy" => some ["from", "path"]
  | _ => none

/-- The change of a kind whose fields are found by `field`. -/
def ofFields? (kind : String) (field : String → Option Json) : Option Operation :=
  let pointer (key : String) : Option Pointer :=
    (field key).bind Json.string? |>.bind Pointer.ofText?
  match kind with
  | "add" => return add (← pointer "path") (← field "value")
  | "remove" => return remove (← pointer "path")
  | "replace" => return replace (← pointer "path") (← field "value")
  | "move" => return move (← pointer "from") (← pointer "path")
  | "copy" => return copy (← pointer "from") (← pointer "path")
  | "test" => return test (← pointer "path") (← field "value")
  | _ => none

/-- Reads a change: an object, or an array of its kind and its fields in order. Members that the
kind does not have are passed over. -/
def ofJson? : Json → Option Operation
  | .obj members => do
    let kind ← (← members.lookup "op").string?
    ofFields? kind fun name => members.lookup name
  | .arr (.str kind :: items) => do
    let names ← fields? kind
    if items.length = names.length then
      ofFields? kind fun name => (names.zip items).lookup name
    else none
  | _ => none

end Operation

namespace Patch

def perform? (patch : Patch) (document : Json) : Option Json :=
  patch.foldlM Operation.perform? document

def toJson (patch : Patch) : Json := .arr (patch.map Operation.toJson)

def ofJson? (document : Json) : Option Patch := do
  (← document.items?).mapM Operation.ofJson?

end Patch

end WebhookOperator.Json
