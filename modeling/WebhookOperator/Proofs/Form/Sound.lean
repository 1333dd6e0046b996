import WebhookOperator.Form
import WebhookOperator.Proofs.Codec.Lawful
import WebhookOperator.Proofs.Outline.Legible

/-!
# Sound forms

A form is sound when nothing is lost either way: what its codec writes reads back, and the outlines
of different values differ.  The form of a structure is sound if its parts are.  Fields are taken
one after the other, as the form takes them, and what is shown of all of them determines the
structure.

Soundness is a class, so the fields of a structure are gone through by instances.  That its keys
differ and that its names are words is checked once for the whole structure (`Fields.WellNamed`).

* `Fields.Sound.field`: one field more
* `Form.Sound.record`: **the form of a structure is sound if its fields are**
-/

namespace WebhookOperator

open Outline (Legible IsName IsWord)

variable {σ α β : Type}

class Form.Sound (form : Form α) : Prop where
  lawful : form.codec.Lawful
  legible : Legible form.outline

class Part.Sound (part : Part α) : Prop where
  lawful : part.slot.Lawful
  legible : Legible part.outline

/-! ### Values and parts -/

namespace Form.Sound

instance string : Form.string.Sound := ⟨.string, .quoted⟩

instance bool : Form.bool.Sound := ⟨.bool, .bool⟩

instance int32 : Form.int32.Sound := ⟨.int32, Legible.int.comp fun _ _ => Int32.toInt_inj.1⟩

instance int64 : Form.int64.Sound := ⟨.int64, Legible.int.comp fun _ _ => Int64.toInt_inj.1⟩

instance quantity : Form.quantity.Sound := ⟨.string, Legible.quoted.wrapped (by decide)⟩

instance list {form : Form α} [h : form.Sound] : form.list.Sound :=
  ⟨.list h.lawful, .listOf h.legible⟩

instance dict {form : Form α} [h : form.Sound] : form.dict.Sound :=
  ⟨.dict h.lawful, .dict h.legible⟩

end Form.Sound

namespace Part.Sound

instance expected {form : Form α} [h : form.Sound] {default : α} :
    (Part.expected form default).Sound :=
  ⟨.expected h.lawful default, h.legible⟩

instance optional {form : Form α} [h : form.Sound] : (Part.optional form).Sound :=
  ⟨.optional h.lawful, .option h.legible⟩

instance text : Part.text.Sound := expected

end Part.Sound

/-! ### Structures -/

namespace Fields

/-- Fields that read back what they wrote, and whose outlines determine the part that they make. -/
class Sound (fields : Fields σ α) (part : outParam (σ → α)) : Prop where
  lawful : fields.record.keys.Nodup → fields.record.Lawful part
  names_eq : ∀ whole, (fields.outlines whole).map (·.1) = fields.names
  plain : ∀ whole, ∀ field ∈ fields.outlines whole, field.2.Plain
  part_eq : ∀ whole other, fields.outlines whole = fields.outlines other → part whole = part other

instance Sound.of {make : α} : (of make : Fields σ α).Sound fun _ => make where
  lawful _ := .of make
  names_eq _ := rfl
  plain _ _ hmem := by cases hmem
  part_eq _ _ _ := rfl

/-- **One field more.** -/
instance Sound.field {fields : Fields σ (β → α)} {part : σ → β → α} [h : fields.Sound part]
    {key name : String} {kind : Part β} [hkind : kind.Sound] {get : σ → β} :
    (fields.field key name kind get).Sound fun whole => part whole (get whole) where
  lawful hkeys := by
    obtain ⟨hkeys, -, hnew⟩ := List.nodup_append.1 hkeys
    exact (h.lawful hkeys).field hkind.lawful
      (fun hmem => hnew key hmem key List.mem_cons_self rfl) get
  names_eq whole := by
    show (fields.outlines whole ++ [(name, kind.outline (get whole))]).map (·.1) =
      fields.names ++ [name]
    rw [List.map_append, h.names_eq]
    rfl
  plain whole shown hmem := by
    rcases List.mem_append.1 hmem with hmem | hmem
    · exact h.plain whole shown hmem
    · obtain rfl := List.mem_singleton.1 hmem
      exact hkind.legible.plain (get whole)
  part_eq whole other heq := by
    obtain ⟨hbefore, hlast⟩ := List.append_inj' heq rfl
    have hget : get whole = get other :=
      hkind.legible.injective (Prod.mk.inj (List.singleton_inj.1 hlast)).2
    rw [h.part_eq whole other hbefore, hget]

/-- The name of the structure is a word, its keys differ, and no name of a field has a mark. -/
def WellNamed (fields : Fields σ α) (name : String) : Prop :=
  IsWord name ∧ fields.record.keys.Nodup ∧ ∀ field ∈ fields.names, IsName field

instance (fields : Fields σ α) (name : String) : Decidable (fields.WellNamed name) :=
  inferInstanceAs (Decidable (_ ∧ _ ∧ _))

end Fields

/-- **The form of a structure is sound if its fields are**, and if they make up the structure. -/
theorem Form.Sound.record {fields : Fields α α} {name : String} {part : α → α}
    [h : fields.Sound part] (hpart : ∀ value, part value = value) (hnames : fields.WellNamed name) :
    (Form.record name fields).Sound := by
  obtain rfl : part = id := funext hpart
  obtain ⟨hword, hkeys, hfields⟩ := hnames
  refine ⟨.object (h.lawful hkeys), fun value => ?_, fun value other heq => ?_⟩
  · refine .record hword (fun field hmem => hfields field.1 ?_) (h.plain value)
    rw [← h.names_eq value]
    exact List.mem_map_of_mem hmem
  · exact h.part_eq value other (Outline.record.inj heq).2

end WebhookOperator
