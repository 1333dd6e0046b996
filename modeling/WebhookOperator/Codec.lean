import WebhookOperator.Json.Basic
import WebhookOperator.Text.Base64

/-!
# Values as documents

A `Codec` reads a value from a document and writes it as one. A `Slot` does the same for a member
of an object, which may be missing, and a `Record` puts members together: it starts from the
constructor of a structure and takes one field after the other.

The kinds of slot differ in what a missing or null member means:

* `Slot.expected`: both stand for a default, and the member is always written
* `Slot.optional`: both stand for no value, and only a value is written
* `Slot.strict`: the member has to be there, and null is a document like any other
* `Slot.nullable`: the member has to be there, and null stands for a default
* `Slot.defaulted`: only a missing member stands for the default, and some values are not written
-/

namespace WebhookOperator

/-- How a value is read from a document and written as one. -/
structure Codec (α : Type) where
  decode : Json → Option α
  encode : α → Json

namespace Codec

def any : Codec Json := ⟨some, id⟩

def string : Codec String := ⟨Json.string?, .str⟩

def bool : Codec Bool := ⟨Json.bool?, .bool⟩

def int32 : Codec Int32 where
  decode document := do
    let value ← document.int?
    if Int32.minValue.toInt ≤ value ∧ value ≤ Int32.maxValue.toInt then
      some (Int32.ofInt value)
    else none
  encode value := .num (.int value.toInt)

def int64 : Codec Int64 where
  decode document := do
    let value ← document.int?
    if Int64.minValue.toInt ≤ value ∧ value ≤ Int64.maxValue.toInt then
      some (Int64.ofInt value)
    else none
  encode value := .num (.int value.toInt)

def uint16 : Codec UInt16 where
  decode document := do
    let value ← document.int?
    if 0 ≤ value ∧ value < UInt16.size then some (UInt16.ofNat value.toNat) else none
  encode value := .num (.int value.toNat)

/-- Bytes, written in base 64; null stands for no bytes. -/
def bytes : Codec (List UInt8) where
  decode
    | .null => some []
    | .str text => Text.Base64.decode text.toList
    | _ => none
  encode value := .str (String.ofList (Text.Base64.encode value))

def list (codec : Codec α) : Codec (List α) where
  decode document := do (← document.items?).mapM codec.decode
  encode values := .arr (values.map codec.encode)

/-- An object whose keys are free. -/
def dict (codec : Codec α) : Codec (Dict α) where
  decode document := do
    let entries ← (← document.members?).mapM fun (key, value) =>
      (codec.decode value).map (key, ·)
    return .ofList entries
  encode values := .obj (values.entries.map fun (key, value) => (key, codec.encode value))

end Codec

/-- How a value is read from and written as a member that may be missing. -/
structure Slot (α : Type) where
  read : Option Json → Option α
  write : α → Option Json

namespace Slot

/-- A missing or null member stands for the default; the member is always written. -/
def expected (codec : Codec α) (default : α) : Slot α where
  read
    | none | some .null => some default
    | some document => codec.decode document
  write value := some (codec.encode value)

/-- A missing or null member stands for no value; only a value is written. -/
def optional (codec : Codec α) : Slot (Option α) where
  read
    | none | some .null => some none
    | some document => (codec.decode document).map some
  write value := value.map codec.encode

def strict (codec : Codec α) : Slot α where
  read member := member.bind codec.decode
  write value := some (codec.encode value)

/-- The member has to be there, and null stands for the default. -/
def nullable (codec : Codec α) (default : α) : Slot α where
  read
    | none => none
    | some .null => some default
    | some document => codec.decode document
  write value := some (codec.encode value)

/-- A missing member stands for the default; values for which `omitted` holds are not written. -/
def defaulted (codec : Codec α) (default : α) (omitted : α → Bool) : Slot α where
  read
    | none => some default
    | some document => codec.decode document
  write value := if omitted value then none else some (codec.encode value)

/-- A text that is the empty one when its member is missing or null. -/
def text : Slot String := expected .string ""

/-- A list that is empty when its member is missing, and whose member is missing when it is. -/
def items (codec : Codec α) : Slot (List α) := defaulted codec.list [] List.isEmpty

end Slot

/-- Members of an object: how a part `α` of a structure `σ` is read from them and how the structure
writes them. The keys stand in the order of the fields. -/
structure Record (σ α : Type) where
  keys : List String
  read : (String → Option Json) → Option α
  write : σ → List (String × Json)

namespace Record

/-- No members yet, and the constructor that takes the fields. -/
def of (make : α) : Record σ α := ⟨[], fun _ => some make, fun _ => []⟩

def field (record : Record σ (β → α)) (key : String) (slot : Slot β) (get : σ → β) :
    Record σ α where
  keys := record.keys ++ [key]
  read look := do
    let make ← record.read look
    return make (← slot.read (look key))
  write whole := record.write whole ++ ((slot.write (get whole)).map (key, ·)).toList

/-- One field more, which may stand under a second key; it is never written there, and both keys
at once are refused. -/
def fieldOr (record : Record σ (β → α)) (key second : String) (slot : Slot β) (get : σ → β) :
    Record σ α where
  keys := record.keys ++ [key]
  read look := do
    let make ← record.read look
    let member ← match look key, look second with
      | some _, some _ => none
      | some document, none => some (some document)
      | none, member => some member
    return make (← slot.read member)
  write whole := record.write whole ++ ((slot.write (get whole)).map (key, ·)).toList

end Record

namespace Codec

/-- An object with the members of a record; other members are passed over. -/
def object (record : Record α α) : Codec α where
  decode
    | .obj members => record.read fun key => members.lookup key
    | _ => none
  encode value := .ofMembers (record.write value)

/-- The members of a record as an object, or as an array of its fields in order, which may end
early where the remaining members may be missing. -/
def readEither (record : Record σ α) : Json → Option α
  | .obj members => record.read fun key => members.lookup key
  | .arr items =>
    if items.length ≤ record.keys.length then
      record.read fun key => (record.keys.zip items).lookup key
    else none
  | _ => none

/-- An object, or an array of the fields in order; it is written as an object. -/
def either (record : Record α α) : Codec α := ⟨readEither record, (object record).encode⟩

def kindMembers (apiVersion kind : String) : List (String × Json) :=
  [("apiVersion", .str apiVersion), ("kind", .str kind)]

/-- An object of a kind: the members that say so may be missing but not differ, and they are always
written. -/
def resource (apiVersion kind : String) (record : Record α α) : Codec α where
  decode
    | .obj members =>
      if (kindMembers apiVersion kind).all fun (key, value) =>
          (members.lookup key).all (· = value) then
        record.read fun key => members.lookup key
      else none
    | _ => none
  encode value := .ofMembers (kindMembers apiVersion kind ++ record.write value)

/-- An object of a kind that is written with its kind and read whatever kind it names. -/
def customResource (apiVersion kind : String) (record : Record α α) : Codec α where
  decode := readEither record
  encode value := .ofMembers (kindMembers apiVersion kind ++ record.write value)

end Codec

end WebhookOperator
