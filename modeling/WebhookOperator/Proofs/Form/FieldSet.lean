import WebhookOperator.Cluster.FieldSet
import WebhookOperator.Proofs.Form.Sound

/-!
# What a set of fields shows

The text of a set of fields shows a document value by value, so sets of fields can be told by it.
What makes a document a set of fields is a run over it that leaves it as it is (`settle?`); here it
is a relation (`Tree`), and the facts about outlines go by induction on it.  A number is told by its
text because it is what the text reads as, so nothing need be known of how numbers are laid out but
that they are words.

* `Tree.sorted`, `Tree.plain`, `Tree.eq_of_outline_eq`
* `FieldSet.sound`: **a set of fields has a sound form**
-/

namespace WebhookOperator

open Outline (marks IsWord isWord_iff isWord_intRepr isDigit_of_mem_natRepr
  not_mem_marks_of_isDigit)

/-! ### Numbers -/

theorem Decimal.isWord_text (layout : Layout) (number : Decimal) : IsWord (number.text layout) := by
  rw [isWord_iff]
  unfold Decimal.text
  split
  · exact isWord_iff.1 (by decide)
  extract_lets magnitude
  split
  extract_lets shown exponent point fraction unsigned
  obtain ⟨hzero, hpoint, hmark, hminus⟩ :
      '0' ∉ marks ∧ '.' ∉ marks ∧ 'e' ∉ marks ∧ '-' ∉ marks := by decide
  have hshown : ∀ c ∈ shown, c ∉ marks := fun c hmem =>
    not_mem_marks_of_isDigit (isDigit_of_mem_natRepr hmem)
  have htake (count : Nat) : ∀ c ∈ shown.take count, c ∉ marks := fun c hmem =>
    hshown c (List.mem_of_mem_take hmem)
  have hdrop (count : Nat) : ∀ c ∈ shown.drop count, c ∉ marks := fun c hmem =>
    hshown c (List.mem_of_mem_drop hmem)
  have hzeros (count : Nat) : ∀ c ∈ List.replicate count '0', c ∉ marks := fun c hmem =>
    List.eq_of_mem_replicate hmem ▸ hzero
  have hpower : ∀ c ∈ (toString (point - 1)).toList, c ∉ marks :=
    Int.toString_eq_repr ▸ (isWord_intRepr (point - 1)).not_mem_marks
  have hunsigned : unsigned ≠ [] ∧ ∀ c ∈ unsigned, c ∉ marks := by
    refine ⟨?_, ?_⟩ <;> rw [show unsigned = ite _ _ _ from rfl]
    · split_ifs <;> simp
    · -- digits and zeros, digits around a point, zeros before digits, and a power with or
      -- without a fraction before it
      split_ifs <;> simp only [List.forall_mem_append, List.forall_mem_cons]
      · exact ⟨⟨hshown, hzeros _⟩, hpoint, hzero, nofun⟩
      · exact ⟨htake _, hpoint, hdrop _⟩
      · exact ⟨⟨hzero, hpoint, hzeros _⟩, hshown⟩
      · exact ⟨⟨htake 1, nofun⟩, hmark, hpower⟩
      · exact ⟨⟨htake 1, hpoint, hdrop 1⟩, hmark, hpower⟩
  rw [String.toList_ofList]
  split
  · exact ⟨List.cons_ne_nil _ _, List.forall_mem_cons.2 ⟨hminus, hunsigned.2⟩⟩
  · exact hunsigned

theorem Number.isWord_text (number : Number) : IsWord number.text := by
  unfold Number.text
  cases number.held with
  | int value =>
    rw [Json.renderNumber, Int.toString_eq_repr]
    exact isWord_intRepr value
  | decimal value => exact value.isWord_text _

/-! ### Documents -/

theorem eq_of_map_eq {α β : Type} {f : α → β} {items others : List α}
    (h : ∀ item ∈ items, ∀ other ∈ others, f item = f other → item = other)
    (heq : items.map f = others.map f) : items = others := by
  refine List.ext_getElem (by simpa using congrArg List.length heq) fun position hlt hlt' => ?_
  refine h _ (List.getElem_mem hlt) _ (List.getElem_mem hlt') ?_
  have hposition := congrArg (·[position]?) heq
  simpa [hlt, hlt'] using hposition

namespace Json

/-- A document whose numbers are what their texts read as, and whose keys stand in order. -/
inductive Tree : Json → Prop
  | null : Tree null
  | bool (value : Bool) : Tree (bool value)
  | num {number : Number} (h : Number.ofText? number.text = some number) : Tree (num number)
  | str (value : String) : Tree (str value)
  | arr {items : List Json} (h : ∀ item ∈ items, Tree item) : Tree (arr items)
  | obj {members : List (String × Json)} (hkeys : Entries.Sorted members)
      (h : ∀ member ∈ members, Tree member.2) : Tree (obj members)

mutual

theorem tree_of_settle? : ∀ {document : Json}, document.settle? = some document → Tree document
  | .null, _ => .null
  | .bool value, _ => .bool value
  | .num number, h => by
    obtain ⟨shown, hshown, heq⟩ := Option.map_eq_some_iff.1 h
    exact .num (Json.num.inj heq ▸ hshown)
  | .str value, _ => .str value
  | .arr items, h => by
    obtain ⟨shown, hshown, heq⟩ := Option.map_eq_some_iff.1 h
    exact .arr (tree_of_settleItems? (Json.arr.inj heq ▸ hshown))
  | .obj members, h => by
    obtain ⟨hkeys, h⟩ := Option.ite_none_right_eq_some.1 h
    obtain ⟨shown, hshown, heq⟩ := Option.map_eq_some_iff.1 h
    exact .obj (List.pairwise_map.1 hkeys) (tree_of_settleMembers? (Json.obj.inj heq ▸ hshown))

theorem tree_of_settleItems? : ∀ {items : List Json}, settleItems? items = some items →
    ∀ item ∈ items, Tree item
  | [], _ => nofun
  | item :: items, h => by
    obtain ⟨first, hfirst, h⟩ := Option.bind_eq_some_iff.1 h
    obtain ⟨others, hothers, heq⟩ := Option.map_eq_some_iff.1 h
    obtain ⟨hitem, hitems⟩ := List.cons.inj heq
    rw [hitem] at hfirst
    rw [hitems] at hothers
    exact List.forall_mem_cons.2 ⟨tree_of_settle? hfirst, tree_of_settleItems? hothers⟩

theorem tree_of_settleMembers? : ∀ {members : List (String × Json)},
    settleMembers? members = some members → ∀ member ∈ members, Tree member.2
  | [], _ => nofun
  | (key, value) :: members, h => by
    obtain ⟨first, hfirst, h⟩ := Option.bind_eq_some_iff.1 h
    obtain ⟨others, hothers, heq⟩ := Option.map_eq_some_iff.1 h
    obtain ⟨hmember, hmembers⟩ := List.cons.inj heq
    rw [(Prod.mk.inj hmember).2] at hfirst
    rw [hmembers] at hothers
    exact List.forall_mem_cons.2 ⟨tree_of_settle? hfirst, tree_of_settleMembers? hothers⟩

end

theorem outlines_eq_map (items : List Json) : outlines items = items.map outline := by
  induction items with
  | nil => rfl
  | cons item items ih => rw [outlines, ih, List.map_cons]

theorem memberOutlines_eq_map (members : List (String × Json)) :
    memberOutlines members = members.map fun member => (member.1, member.2.outline) := by
  induction members with
  | nil => rfl
  | cons member members ih => rw [memberOutlines, ih, List.map_cons]

namespace Tree

variable {document other : Json}

theorem sorted (h : Tree document) : document.Sorted := by
  induction h with
  | arr h ih => exact sorted_arr.2 ih
  | obj hkeys h ih => exact sorted_obj.2 ⟨hkeys, ih⟩
  | _ => trivial

theorem plain (h : Tree document) : document.outline.Plain := by
  induction h with
  | null => exact .word (by decide)
  | bool value => exact .wrapped (by decide) (Outline.Legible.bool.plain value)
  | @num number h => exact .wrapped (by decide) (.word number.isWord_text)
  | str value => exact .wrapped (by decide) (.quoted value)
  | @arr items h ih =>
    refine .labeled (by decide) trivial (.list fun shown hmem => ?_)
    rw [outlines_eq_map] at hmem
    obtain ⟨item, hitem, rfl⟩ := List.mem_map.1 hmem
    exact ih item hitem
  | @obj members hkeys h ih =>
    refine .labeled (by decide) trivial (.map fun shown hmem => ?_)
    rw [memberOutlines_eq_map] at hmem
    obtain ⟨member, hmember, rfl⟩ := List.mem_map.1 hmem
    exact ih member hmember

/-- **Documents with the same outline are the same.** -/
theorem eq_of_outline_eq (h : Tree document) (hother : Tree other)
    (heq : document.outline = other.outline) : document = other := by
  induction h generalizing other with
  | null =>
    cases hother
    case null => rfl
    all_goals simp [outline] at heq
  | bool value =>
    cases hother
    case bool value' =>
      rw [Outline.Legible.bool.injective (Outline.wrapped.inj heq).2]
    all_goals simp [outline] at heq
  | @num number h =>
    cases hother
    case num number' h' =>
      have htext : number.text = number'.text := Outline.word.inj (Outline.wrapped.inj heq).2
      rw [htext, h'] at h
      rw [Option.some.inj h]
    all_goals simp [outline] at heq
  | str value =>
    cases hother
    case str value' =>
      rw [Outline.quoted.inj (Outline.wrapped.inj heq).2]
    all_goals simp [outline] at heq
  | @arr items h ih =>
    cases hother
    case arr items' h' =>
      have hitems := Outline.list.inj (Outline.labeled.inj heq).2
      rw [outlines_eq_map, outlines_eq_map] at hitems
      rw [eq_of_map_eq (fun item hmem item' hmem' => ih item hmem (h' item' hmem')) hitems]
    all_goals simp [outline] at heq
  | @obj members hkeys h ih =>
    cases hother
    case obj members' hkeys' h' =>
      have hmembers := Outline.map.inj (Outline.labeled.inj heq).2
      rw [memberOutlines_eq_map, memberOutlines_eq_map] at hmembers
      have hsame : ∀ member ∈ members, ∀ member' ∈ members',
          (member.1, member.2.outline) = (member'.1, member'.2.outline) → member = member' := by
        intro member hmem member' hmem' heq
        obtain ⟨hkey, hvalue⟩ := Prod.mk.inj heq
        exact Prod.ext hkey (ih member hmem (h' member' hmem') hvalue)
      rw [eq_of_map_eq hsame hmembers]
    all_goals simp [outline] at heq

end Tree

end Json

theorem FieldSet.tree (fields : FieldSet) : fields.document.Tree :=
  Json.tree_of_settle? fields.settled

theorem FieldSet.ofJson?_document (fields : FieldSet) : ofJson? fields.document = some fields := by
  rw [ofJson?, fields.settled, Option.bind_some]
  exact dif_pos ⟨fields.ne_null, fields.settled⟩

instance FieldSet.sound : FieldSet.form.Sound where
  lawful := {
    decode_encode := ofJson?_document
    encode_ne_null := fun fields => fields.ne_null
    sorted_encode := fun fields => fields.tree.sorted }
  legible := {
    plain := fun fields => .wrapped (by decide) fields.tree.plain
    injective := fun fields other heq => by
      have hdocument := fields.tree.eq_of_outline_eq other.tree (Outline.wrapped.inj heq).2
      cases fields
      cases other
      cases hdocument
      rfl }

/-- Numbers of one value are one number. -/
example :
    let written := Json.obj [("f:weight", .arr
      [.num (.decimal ⟨150, 2⟩), .num (.decimal ⟨15, 1⟩), .num (.int 18446744073709551616)])]
    (FieldSet.ofJson? written).map (fun fields => (FieldSet.form.outline fields).text) =
      some ("FieldsV1(Object \x7b\"f:weight\": Array [" ++
        "Number(1.5), Number(1.5), Number(1.8446744073709551616e19)]\x7d)") := by
  decide +kernel

end WebhookOperator
