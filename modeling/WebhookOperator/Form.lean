import WebhookOperator.Codec
import WebhookOperator.Outline

/-!
# Forms of values

A value of the cluster stands in a document and in the one-line texts of messages. Its `Form` says
both at once: the codec for the document, and the outline behind the text. A structure is described
field by field (`Fields`), each field with its key in documents, its name in texts, and the `Part`
that says how its value is written.
-/

namespace WebhookOperator

structure Form (α : Type) where
  codec : Codec α
  outline : α → Outline

namespace Form

def string : Form String := ⟨.string, .quoted⟩

def bool : Form Bool := ⟨.bool, .bool⟩

def int32 : Form Int32 := ⟨.int32, fun number => .int number.toInt⟩

def int64 : Form Int64 := ⟨.int64, fun number => .int number.toInt⟩

def quantity : Form String := ⟨.string, fun amount => .wrapped "Quantity" (.quoted amount)⟩

def list (form : Form α) : Form (List α) := ⟨form.codec.list, .listOf form.outline⟩

def dict (form : Form α) : Form (Dict α) := ⟨form.codec.dict, .dict form.outline⟩

end Form

/-- How the value of a field is written. -/
structure Part (α : Type) where
  slot : Slot α
  outline : α → Outline

namespace Part

def expected (form : Form α) (default : α) : Part α := ⟨.expected form.codec default, form.outline⟩

def optional (form : Form α) : Part (Option α) := ⟨.optional form.codec, .option form.outline⟩

def text : Part String := expected .string ""

end Part

/-- The fields of a structure `σ`, as far as they make a part `α` of it. -/
structure Fields (σ α : Type) where
  record : Record σ α
  names : List String
  outlines : σ → List (String × Outline)

namespace Fields

def of (make : α) : Fields σ α := ⟨.of make, [], fun _ => []⟩

def field (fields : Fields σ (β → α)) (key name : String) (part : Part β) (get : σ → β) :
    Fields σ α where
  record := fields.record.field key part.slot get
  names := fields.names ++ [name]
  outlines whole := fields.outlines whole ++ [(name, part.outline (get whole))]

end Fields

def Form.record (name : String) (fields : Fields α α) : Form α where
  codec := .object fields.record
  outline value := .record name (fields.outlines value)

end WebhookOperator
