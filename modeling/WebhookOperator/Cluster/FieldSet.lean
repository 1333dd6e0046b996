import WebhookOperator.Form
import WebhookOperator.Json.Render
import WebhookOperator.Json.Token

/-!
# Sets of fields

The fields that a writer of an object is responsible for are kept as a JSON document, an object with
an object for each field below it. Its text shows every value with its kind before it:
`Object {"f:data": Object {}}`.

Numbers of such a document count by their value, not by how they were written: `1.50` is `1.5`, and
a whole number of more than 64 bits is a decimal one. So each is kept as its text reads.
-/

namespace WebhookOperator

namespace Number

/-- A whole number of more than 64 bits is a decimal one. -/
def held : Number → Number
  | .int value =>
    if Int64.minValue.toInt ≤ value ∧ value < UInt64.size then .int value
    else .decimal (.ofInt value)
  | .decimal value => .decimal value

def text (number : Number) : String := Json.renderNumber number.held

def ofText? (text : String) : Option Number :=
  match Json.Token.number? text.toList with
  | some (number, []) => some number
  | _ => none

end Number

namespace Json

mutual

/-- The document with every number as its text reads, if its keys stand in order. -/
def settle? : Json → Option Json
  | null => some null
  | bool value => some (bool value)
  | num number => (Number.ofText? number.text).map num
  | str value => some (str value)
  | arr items => (settleItems? items).map arr
  | obj members =>
    if (members.map (·.1)).Pairwise (· < ·) then (settleMembers? members).map obj else none

def settleItems? : List Json → Option (List Json)
  | [] => some []
  | item :: items => (settle? item).bind fun item => (settleItems? items).map (item :: ·)

def settleMembers? : List (String × Json) → Option (List (String × Json))
  | [] => some []
  | (key, value) :: members =>
    (settle? value).bind fun value => (settleMembers? members).map ((key, value) :: ·)

end

mutual

def outline : Json → Outline
  | null => .word "Null"
  | bool value => .wrapped "Bool" (.bool value)
  | num value => .wrapped "Number" (.word value.text)
  | str value => .wrapped "String" (.quoted value)
  | arr items => .labeled "Array" (.list (outlines items))
  | obj members => .labeled "Object" (.map (memberOutlines members))

def outlines : List Json → List Outline
  | [] => []
  | item :: items => item.outline :: outlines items

def memberOutlines : List (String × Json) → List (String × Outline)
  | [] => []
  | (key, value) :: members => (key, value.outline) :: memberOutlines members

end

end Json

/-- A set of fields. -/
structure FieldSet where
  document : Json
  ne_null : document ≠ .null
  settled : document.settle? = some document
deriving DecidableEq

namespace FieldSet

instance : Inhabited FieldSet := ⟨.obj [], nofun, rfl⟩

def ofJson? (document : Json) : Option FieldSet :=
  document.settle?.bind fun document =>
    if h : document ≠ .null ∧ document.settle? = some document then some ⟨document, h.1, h.2⟩
    else none

def form : Form FieldSet where
  codec := ⟨ofJson?, document⟩
  outline fields := .wrapped "FieldsV1" fields.document.outline

end FieldSet

end WebhookOperator
